import RemoteCall.Service.Call

/-!
# Demonstration: sample methods

Small methods of many types, enough to build a service whose every way of behaving can be provoked:
replies of any size, failures, a panic, a reply that has no byte form, and a handler that waits
until it is released.
-/

namespace RemoteCall.Demo

/-! ## Pseudo-random bytes -/

/-- The next state of a shift-register generator. -/
def scramble (state : UInt64) : UInt64 :=
  let state := state ^^^ (state <<< 13)
  let state := state ^^^ (state >>> 7)
  state ^^^ (state <<< 17)

/-- `n` bytes of the generator behind those in `acc`; each is the top byte of a state. -/
def noiseFrom (state : UInt64) (acc : Array UInt8) : (n : Nat) → Array UInt8
  | 0 => acc
  | n + 1 =>
    let state := scramble state
    noiseFrom state (acc.push (state >>> 56).toUInt8) n

/-- `n` bytes that do not compress. -/
def noise (n : Nat) : Bytes :=
  (noiseFrom 0x2545f4914f6cdd1d #[] n).toList

/-! ## Handlers -/

/-- A handler that succeeds with a function of its request. -/
def pureHandler {α β : Type} (f : α → β) : Handler α β := fun request _ => .done (f request)

/-- The most bytes that a reply can have at all. -/
def largestReply : Nat := UInt64.size / 2 - 1

/-- A handler that makes a reply of the size that it is asked for, and panics if there cannot be
one. -/
def sizedHandler {β : Type} (f : Nat → β) : Handler UInt64 β := fun size _ =>
  if largestReply < size.toNat then .panicked else .done (f size.toNat)

/-- The sample methods. -/
inductive Sample
  /-- The sum of two integers, which wraps around. -/
  | add
  | echo
  /-- Fails with the text of its request. -/
  | fail
  /-- Fails as well, but has written 7 into the reply before. -/
  | failInt
  | length
  | noise
  /-- A text of so many letters. -/
  | fill
  | unit
  | not
  | join
  | sum
  | isSome
  | panic
  | unencodable
  /-- Always the same text. -/
  | tag (text : String)
  /-- Waits until the number in its request is released. -/
  | hold
  deriving DecidableEq, Repr

/-- The sample of this name. -/
def Sample.ofName? (name : String) : Option Sample :=
  match name with
  | "add" => some .add
  | "echo" => some .echo
  | "fail" => some .fail
  | "fail_i64" => some .failInt
  | "len" => some .length
  | "noise" => some .noise
  | "fill" => some .fill
  | "unit" => some .unit
  | "not" => some .not
  | "join" => some .join
  | "sum" => some .sum
  | "is_some" => some .isSome
  | "panic" => some .panic
  | "unencodable" => some .unencodable
  | "hold" => some .hold
  | _ =>
    match name.toList with
    | 't' :: 'a' :: 'g' :: ':' :: text => some (.tag (String.ofList text))
    | _ => none

/-- Adds up the values of a table; the sum wraps around. -/
def sumOf (table : TextMap Int64) : Int64 :=
  table.entries.foldl (fun n entry => n + entry.2) 0

/-- The method of a sample. -/
def Sample.method : Sample → Method
  | add => .ofHandler (pureHandler fun p : Int64 × Int64 => p.1 + p.2) 0
  | echo => .ofHandler (pureHandler (id : String → String)) ""
  | fail => .ofHandler (fun (text : String) (reply : Unit) => .failed reply ⟨text⟩) ()
  | failInt => .ofHandler (fun (text : String) (_ : Int64) => .failed 7 ⟨text⟩) 0
  | length => .ofHandler (pureHandler fun bytes : List UInt8 => UInt64.ofNat bytes.length) 0
  | noise => .ofHandler (sizedHandler Demo.noise) []
  | fill => .ofHandler (sizedHandler fun n => String.ofList (List.replicate n 'x')) ""
  | unit => .ofHandler (pureHandler (id : Unit → Unit)) ()
  | not => .ofHandler (pureHandler Bool.not) false
  | join => .ofHandler (pureHandler ("+".intercalate : List String → String)) ""
  | sum => .ofHandler (pureHandler sumOf) 0
  | isSome => .ofHandler (pureHandler fun text : Option String => text.isSome) false
  | panic => .ofHandler (fun (_ : Unit) (_ : Unit) => .panicked) ()
  | unencodable => .ofHandler (pureHandler fun _ : Unit => Unencodable.mk) ⟨⟩
  | tag text => .ofHandler (pureHandler fun _ : Unit => text) ""
  | hold =>
    { Method.ofHandler (pureHandler (id : UInt64 → UInt64)) 0 with
      awaits := fun payload =>
        match Payload.read UInt64 payload with
        | .ok id => some id.toNat
        | .error _ => none }

end RemoteCall.Demo
