import RemoteCall.Demo.Commands

/-!
# The command line

Runs a round of calls against both demonstration services in this process.
-/

open RemoteCall

/-- A caller for every network that exists: the services are in this process, whichever is named. -/
def inPlace (network : String) : Option Caller :=
  if Demo.isNetwork network then Demo.registry.toOption.map Registry.callRaw else none

/-- Runs a round with the given options, prints its lines and returns its exit code. -/
def main (args : List String) : IO UInt32 := do
  let ended := Demo.runClient inPlace args
  for line in ended.lines do
    IO.println line
  return ended.exit.toUInt32
