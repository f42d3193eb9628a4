import RemoteCall.Config

/-!
# Permits

A connection has as many permits as requests may be handled at once.  Permits are counted in a word
of which three bits are taken for other uses, so more than `maxPermits` cannot be had at all.
-/

namespace RemoteCall

/-- The most permits that can be had. -/
def maxPermits : Nat := (UInt64.size - 1) / 8

/-- The permits of a connection with these settings, if they can be had. -/
def ServerConfig.permits? (config : ServerConfig) : Option Nat :=
  if config.maxInFlight ≤ maxPermits then some config.maxInFlight else none

/-- Whether connections can be served with these settings. -/
def ServerConfig.canServe (config : ServerConfig) : Bool :=
  config.permits?.isSome

end RemoteCall
