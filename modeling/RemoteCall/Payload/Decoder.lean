import RemoteCall.Payload.Error

/-!
# Reading values off the front of a byte string

A decoder takes a value off the front of its input and leaves the rest.  The primitives here are the
three shapes that the payload format is made of: a number of fixed width, a text behind its length,
and a run of values behind its count.  What is left over at the end is no error.
-/

namespace RemoteCall

/-- Takes a value off the front of a byte string, or says why there is none. -/
abbrev Decoder (α : Type) := Bytes → Except CodecError (α × Bytes)

namespace Decoder

variable {α β : Type}

/-- Reads nothing. -/
def pure (a : α) : Decoder α := fun bs => .ok (a, bs)

/-- Reads one value and then another that may depend on it. -/
def bind (d : Decoder α) (f : α → Decoder β) : Decoder β := fun bs =>
  match d bs with
  | .error e => .error e
  | .ok (a, rest) => f a rest

instance : Monad Decoder where
  pure := pure
  bind := bind

/-- Gives up. -/
def fail (e : CodecError) : Decoder α := fun _ => .error e

/-- Exactly `n` bytes; `short` if there are fewer. -/
def bytes (short : CodecError) (n : Nat) : Decoder Bytes := fun bs =>
  match Bytes.splitFront n bs with
  | some found => .ok found
  | none => .error short

/-- A number of `width` bytes, lowest byte first. -/
def number (width : Nat) : Decoder Nat := fun bs =>
  match bytes .endOfInput width bs with
  | .error e => .error e
  | .ok (front, rest) => .ok (Bytes.ofLittleEndian front, rest)

/-- A length or a count: a number of eight bytes. -/
def count : Decoder Nat := number 8

/-- A text behind its length in bytes. -/
def text : Decoder String := do
  let length ← count
  let utf8 ← bytes .endOfText length
  match Utf8.decode? utf8 with
  | some s => pure s
  | none => fail (.badText (Utf8.fault utf8))

/-- `n` values one after the other, behind those already in `acc`. -/
def many (d : Decoder α) : (n : Nat) → (acc : Array α) → Decoder (Array α)
  | 0, acc, bs => .ok (acc, bs)
  | n + 1, acc, bs =>
    match d bs with
    | .error e => .error e
    | .ok (a, rest) => many d n (acc.push a) rest

/-- Values behind their count. -/
def list (d : Decoder α) : Decoder (List α) := do
  let n ← count
  let found ← many d n #[]
  pure found.toList

/-- The value at the front of a byte string; what follows it is not looked at. -/
def run (d : Decoder α) (bs : Bytes) : Except CodecError α :=
  match d bs with
  | .error e => .error e
  | .ok (a, _) => .ok a

/-- Reads as `d` does, with every failure restated. -/
def mapError (f : CodecError → CodecError) (d : Decoder α) : Decoder α := fun bs =>
  match d bs with
  | .error e => .error (f e)
  | .ok found => .ok found

end Decoder

end RemoteCall
