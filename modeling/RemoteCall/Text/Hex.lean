import RemoteCall.Bytes

/-!
# Bytes in base 16

Two small digits for every byte, the high one first.
-/

namespace RemoteCall.Text

/-- The digit for a number below 16. -/
def hexDigit (n : Nat) : Char :=
  if n < 10 then Char.ofNat ('0'.toNat + n) else Char.ofNat ('a'.toNat + (n - 10))

/-- The number of a digit. -/
def hexValue? (c : Char) : Option Nat :=
  if c.isDigit then some (c.toNat - '0'.toNat)
  else if 'a' ≤ c ∧ c ≤ 'f' then some (c.toNat - 'a'.toNat + 10)
  else none

/-- A byte string in base 16. -/
def hexOfBytes (bs : Bytes) : String :=
  bs.foldl (fun s b => (s.push (hexDigit (b.toNat / 16))).push (hexDigit (b.toNat % 16))) ""

/-- Reads digits behind the bytes that were read so far. -/
def bytesOfDigits (acc : Array UInt8) : List Char → Option (Array UInt8)
  | [] => some acc
  | [_] => none
  | high :: low :: rest =>
    match hexValue? high, hexValue? low with
    | some h, some l => bytesOfDigits (acc.push (UInt8.ofNat (16 * h + l))) rest
    | _, _ => none

/-- The byte string with this text, if it is one. -/
def bytesOfHex? (s : String) : Option Bytes :=
  (bytesOfDigits #[] s.toList).map Array.toList

/-- A number in base 16, padded with zeros to `width` digits. -/
def hexPadded (width n : Nat) : String :=
  let digits := Nat.toDigits 16 n
  String.ofList (List.replicate (width - digits.length) '0' ++ digits)

/-- A number of 64 bits that tells byte strings apart: starting from a fixed number, each byte is
combined with the number so far, which is then multiplied by a fixed prime. -/
def fingerprint (bs : Bytes) : UInt64 :=
  bs.foldl (fun h b => (h ^^^ b.toUInt64) * 0x100000001b3) 0xcbf29ce484222325

end RemoteCall.Text
