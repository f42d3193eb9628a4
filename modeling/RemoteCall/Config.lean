import RemoteCall.Frame.Basic

/-!
# Settings

A server limits how many requests of one connection are handled at once, how long frames may be, and
how long it waits for the next frame.  Settings are made one after the other; the last of a kind
counts. Whatever is asked for, at least one request is handled at a time.
-/

namespace RemoteCall

/-- How a server treats its connections. -/
structure ServerConfig where
  maxInFlight : Nat
  frameLimit : Nat
  /-- In milliseconds. -/
  readTimeout : Option Nat
  one_le_maxInFlight : 1 ≤ maxInFlight
  deriving DecidableEq, Repr

namespace ServerConfig

/-- The settings where none are made. -/
def default : ServerConfig := ⟨256, Frame.defaultLimit, none, by decide⟩

instance : Inhabited ServerConfig := ⟨default⟩

/-- One setting. -/
inductive Setting
  | maxInFlight (n : Nat)
  | frameLimit (n : Nat)
  | readTimeout (milliseconds : Nat)
  deriving DecidableEq, Repr

/-- Makes a setting.  Fewer than one request at a time are raised to one. -/
def set (c : ServerConfig) : Setting → ServerConfig
  | .maxInFlight n => { c with maxInFlight := max n 1, one_le_maxInFlight := Nat.le_max_right n 1 }
  | .frameLimit n => { c with frameLimit := n }
  | .readTimeout ms => { c with readTimeout := some ms }

/-- The outcome of making settings one after the other. -/
def build (settings : List Setting) : ServerConfig :=
  settings.foldl set default

end ServerConfig

/-- How a client connects. -/
structure ClientConfig where
  /-- In milliseconds. -/
  connectTimeout : Option Nat
  frameLimit : Nat
  deriving DecidableEq, Repr

/-- The settings where none are made. -/
def ClientConfig.default : ClientConfig := ⟨none, Frame.defaultLimit⟩

instance : Inhabited ClientConfig := ⟨ClientConfig.default⟩

end RemoteCall
