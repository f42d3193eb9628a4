/-!
# Calls that wait for a response

A client gives every call the next number and remembers under it who waits.  An entry is taken off
the table by whoever settles the call or gives it up.  Shutting the table down takes everything off
it, and from then on nothing can be registered.
-/

namespace RemoteCall.Client

/-- Somebody waits: the number under which a call is sent, and which call it is. -/
structure Entry where
  seq : Nat
  call : Nat
  deriving DecidableEq, Repr

/-- The table of calls that wait for a response. -/
structure Pending where
  nextSeq : Nat
  entries : List Entry
  shut : Bool
  deriving DecidableEq, Repr

namespace Pending

/-- The table of a new client. -/
def empty : Pending := ⟨0, [], false⟩

instance : Inhabited Pending := ⟨empty⟩

/-- Gives a call the next number. -/
def register (p : Pending) (call : Nat) : Option (Nat × Pending) :=
  if p.shut then none
  else
    some (p.nextSeq,
      { p with nextSeq := p.nextSeq + 1, entries := p.entries ++ [⟨p.nextSeq, call⟩] })

/-- Who waits under a number. -/
def find (p : Pending) (seq : Nat) : Option Entry :=
  p.entries.find? fun e => e.seq = seq

/-- Takes the entry under a number off the table, if there is one. -/
def remove (p : Pending) (seq : Nat) : Pending :=
  { p with entries := p.entries.filter fun e => e.seq ≠ seq }

/-- Takes everything off the table, for good. -/
def shutDown (p : Pending) : Pending :=
  { p with entries := [], shut := true }

end Pending

end RemoteCall.Client
