import RemoteCall.Payload.Decoder

/-!
# Values as payloads

How arguments and results travel: numbers in as many bytes as their type has, lowest byte first;
text and lists behind their length; tuples and records as their parts one after the other; an option
behind a byte that tells whether there is a value.  There is one byte form per value, and nothing in
it tells the type, so both ends have to agree on that.
-/

namespace RemoteCall

/-- A double-precision number, as the bits of its standard form. -/
structure FloatBits where
  bits : UInt64
  deriving DecidableEq, Repr, Inhabited

/-- A type whose values can be sent. -/
class Payload (α : Type) where
  encode : α → Except CodecError Bytes
  decode : Decoder α

namespace Payload

variable {α β : Type}

/-- One byte form after another. -/
def append (a b : Except CodecError Bytes) : Except CodecError Bytes :=
  match a with
  | .error e => .error e
  | .ok as =>
    match b with
    | .error e => .error e
    | .ok bs => .ok (as ++ bs)

/-- A length or a count. -/
def encodeCount (n : Nat) : Bytes :=
  Bytes.littleEndian 8 n

/-- A text behind its length in bytes. -/
def encodeText (s : String) : Bytes :=
  let utf8 := Utf8.encode s
  encodeCount utf8.length ++ utf8

/-- The byte forms of a list of values, one after the other; the first failure wins. -/
def encodeAll [Payload α] (as : List α) : Except CodecError Bytes :=
  match as.foldlM (fun (acc : Array Bytes) a => (encode a).map acc.push) #[] with
  | .error e => .error e
  | .ok parts => .ok parts.toList.flatten

instance : Payload Unit := ⟨fun _ => .ok [], pure ()⟩

instance : Payload Bool where
  encode b := .ok [if b then 1 else 0]
  decode := do
    let n ← Decoder.number 1
    match n with
    | 0 => pure false
    | 1 => pure true
    | n => Decoder.fail (.badBool (UInt8.ofNat n))

instance : Payload UInt8 where
  encode n := .ok [n]
  decode := do return UInt8.ofNat (← Decoder.number 1)

instance : Payload UInt32 where
  encode n := .ok (Bytes.littleEndian 4 n.toNat)
  decode := do return UInt32.ofNat (← Decoder.number 4)

instance : Payload UInt64 where
  encode n := .ok (Bytes.littleEndian 8 n.toNat)
  decode := do return UInt64.ofNat (← Decoder.number 8)

instance : Payload Int32 where
  encode n := .ok (Bytes.littleEndian 4 n.toUInt32.toNat)
  decode := do return (UInt32.ofNat (← Decoder.number 4)).toInt32

instance : Payload Int64 where
  encode n := .ok (Bytes.littleEndian 8 n.toUInt64.toNat)
  decode := do return (UInt64.ofNat (← Decoder.number 8)).toInt64

instance : Payload FloatBits where
  encode x := encode x.bits
  decode := do return ⟨← decode⟩

/-- A character is its own UTF-8 form, with no length in front of it: the first byte tells it. -/
instance : Payload Char where
  encode c := .ok (Utf8.encode (String.singleton c))
  decode := do
    let first ← Decoder.bytes .endOfInput 1
    match first.map Utf8.width with
    | [width + 1] =>
      let more ← Decoder.bytes .badChar width
      match (Utf8.decode? (first ++ more)).map String.toList with
      | some [c] => pure c
      | _ => Decoder.fail .badChar
    | _ => Decoder.fail .badChar

instance : Payload String := ⟨fun s => .ok (encodeText s), Decoder.text⟩

instance [Payload α] : Payload (List α) where
  encode as := append (.ok (encodeCount as.length)) (encodeAll as)
  decode := Decoder.list decode

instance [Payload α] [Payload β] : Payload (α × β) where
  encode p := append (encode p.1) (encode p.2)
  decode := do
    let a ← decode
    let b ← decode
    return (a, b)

instance [Payload α] : Payload (Option α) where
  encode
    | none => .ok [0]
    | some a => append (.ok [1]) (encode a)
  decode := do
    let tag ← Decoder.number 1
    match tag with
    | 0 => pure none
    | 1 => return some (← decode)
    | n => Decoder.fail (.badOption (UInt8.ofNat n))

/-- The value at the front of a byte string. -/
def read (α : Type) [Payload α] (bs : Bytes) : Except CodecError α :=
  Decoder.run decode bs

end Payload

/-! ## Tables from text to values -/

/-- A finite table keyed by text, in ascending order of the keys, each of which occurs once. -/
structure TextMap (β : Type) where
  entries : List (String × β)
  deriving DecidableEq, Repr

namespace TextMap

variable {β : Type}

/-- The table without entries. -/
def empty : TextMap β := ⟨[]⟩

instance : Inhabited (TextMap β) := ⟨empty⟩

/-- Puts an entry into an ascending list; it replaces one with the same key. -/
def insertEntry (key : String) (value : β) : List (String × β) → List (String × β)
  | [] => [(key, value)]
  | (k, v) :: rest =>
    if key < k then (key, value) :: (k, v) :: rest
    else if key = k then (key, value) :: rest
    else (k, v) :: insertEntry key value rest

/-- Sets the value of a key. -/
def insert (m : TextMap β) (key : String) (value : β) : TextMap β :=
  ⟨insertEntry key value m.entries⟩

/-- The table of a list of entries; of several with one key the last counts. -/
def ofList (entries : List (String × β)) : TextMap β :=
  entries.foldl (fun m (key, value) => m.insert key value) empty

end TextMap

/-- A table is its entries in ascending order behind their number.  They may arrive in any order. -/
instance {β : Type} [Payload β] : Payload (TextMap β) where
  encode m := Payload.encode m.entries
  decode := do return TextMap.ofList (← Payload.decode)

/-- A value that refuses to be sent. -/
structure Unencodable where
  deriving DecidableEq, Repr, Inhabited

instance : Payload Unencodable := ⟨fun _ => .error .refused, pure ⟨⟩⟩

end RemoteCall
