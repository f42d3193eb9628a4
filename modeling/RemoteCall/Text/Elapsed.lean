/-!
# Elapsed time as text

A time span is a number of nanoseconds.  It is shown in the largest of the units s, ms, µs and ns in
which it is at least one, with as many decimals as it needs and no trailing zeros.
-/

namespace RemoteCall.Text

/-- The decimals of `rest`, a part of a unit that has `places` decimal places. -/
def decimals (rest places : Nat) : String :=
  let digits := (Nat.repr rest).toList
  let padded := List.replicate (places - digits.length) '0' ++ digits
  let needed := (padded.reverse.dropWhile (· = '0')).reverse
  if needed.isEmpty then "" else "." ++ String.ofList needed

/-- `nanos` in a unit of `size` nanoseconds, where `size` is a one with `places` zeros. -/
def inUnit (nanos size places : Nat) (unit : String) : String :=
  Nat.repr (nanos / size) ++ decimals (nanos % size) places ++ unit

/-- A time span of `nanos` nanoseconds. -/
def elapsed (nanos : Nat) : String :=
  if nanos ≥ 1000000000 then inUnit nanos 1000000000 9 "s"
  else if nanos ≥ 1000000 then inUnit nanos 1000000 6 "ms"
  else if nanos ≥ 1000 then inUnit nanos 1000 3 "µs"
  else inUnit nanos 1 0 "ns"

end RemoteCall.Text
