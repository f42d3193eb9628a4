import RemoteCall.Demo.Arith
import RemoteCall.Demo.Echo

/-!
# Demonstration: both services together
-/

namespace RemoteCall.Demo

/-- The registry with the arithmetic and the echo service. -/
def registry : Except RegistrationError (Registry Method) := do
  let r ← Registry.empty.register Arith.serviceName Arith.methods
  r.register Echo.serviceName Echo.methods

end RemoteCall.Demo
