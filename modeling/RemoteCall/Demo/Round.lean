import RemoteCall.Demo.Arith
import RemoteCall.Demo.Echo

/-!
# Demonstration: a round of calls

Calls every method of both services once and checks the results.  The round stops at the first
result that is not as expected.
-/

namespace RemoteCall.Demo

/-- How far a round came: the lines printed so far, and whether it is still going. -/
structure Round where
  lines : List String
  failed : Bool

namespace Round

/-- A round that has not begun. -/
def start : Round := ⟨[], false⟩

/-- Goes on if `passed` holds, and says so. -/
def check (round : Round) (what : String) (passed : Bool) : Round :=
  if round.failed then round
  else if passed then { round with lines := round.lines ++ [what ++ ": ok"] }
  else { round with failed := true }

/-- Whether a call came back with this value. -/
def returned {α : Type} [DecidableEq α] (result : Option (Except CallError α)) (expected : α) :
    Bool :=
  match result with
  | some (.ok value) => value = expected
  | _ => false

/-- Whether a call came back with a failure of this text. -/
def failedWith {α : Type} (result : Option (Except CallError α)) (expected : String) : Bool :=
  match result with
  | some (.error cause) => cause.message = expected
  | _ => false

/-- A whole round over a caller, with a text for the echo service. -/
def run (caller : Caller) (message : String) : Round :=
  let twice := message ++ message
  let round := start
    |>.check "ArithService.Add" (returned (Arith.callAdd caller ⟨1, 2⟩) ⟨3⟩)
    |>.check "ArithService.Mul" (returned (Arith.callMul caller ⟨3, 4⟩) ⟨12⟩)
    |>.check "ArithService.Div" (returned (Arith.callDiv caller ⟨13, 5⟩) ⟨2⟩)
    |>.check "ArithService.Div by zero" (failedWith (Arith.callDiv caller ⟨1, 0⟩) "divide by zero")
    |>.check "ArithService.Error" (failedWith (Arith.callError caller ⟨1, 0⟩) "ArithError")
    |>.check "EchoService.Echo" (returned (Echo.callEcho caller ⟨message⟩) ⟨message⟩)
    |>.check "EchoService.EchoTwice" (returned (Echo.callEchoTwice caller ⟨message⟩) ⟨twice⟩)
    |>.check "EchoService.Echo by name"
      (returned (call caller "EchoService.Echo" (Echo.Request.mk message) Echo.Response) ⟨message⟩)
  if round.failed then round else { round with lines := round.lines ++ ["Done."] }

end Round

end RemoteCall.Demo
