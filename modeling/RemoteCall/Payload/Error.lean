import RemoteCall.Text.Utf8
import RemoteCall.Snappy.Basic

/-!
# Why a value cannot be written or read

The causes are those of the payload format: input that ends too early, bytes outside the range of
their type, text that is not text.  `CodecError.message` is the one place that words them.
-/

namespace RemoteCall

/-- Why a value has no byte form, or bytes are not the form of a value. -/
inductive CodecError
  /-- The input ends inside a number or a tag. -/
  | endOfInput
  /-- The input ends inside a text whose length it gave. -/
  | endOfText
  /-- The value would need more bytes than it is allowed to take. -/
  | overLimit
  | badBool (byte : UInt8)
  | badOption (tag : UInt8)
  | badChar
  | badText (fault : Utf8.Fault)
  /-- A choice among `count` alternatives has the number `index`. -/
  | badVariant (index count : Nat)
  /-- The value refuses to be written. -/
  | refused
  /-- The payload cannot be compressed. -/
  | incompressible (cause : Snappy.Error)
  /-- Any other cause, in words. -/
  | described (text : String)
  deriving DecidableEq, Repr

/-- The text of a failure to write or read a value. -/
def CodecError.message : CodecError → String
  | .endOfInput => "io error: unexpected end of file"
  | .endOfText => "io error: "
  | .overLimit => "the size limit has been reached"
  | .badBool b => s!"invalid u8 while decoding bool, expected 0 or 1, found {b.toNat}"
  | .badOption tag => s!"tag for enum is not valid, found {tag.toNat}"
  | .badChar => "char is not valid"
  | .badText fault => "string is not valid utf8: " ++ fault.message
  | .badVariant index count =>
    s!"invalid value: integer `{index}`, expected variant index 0 <= i < {count}"
  | .refused => "value refuses to be encoded"
  | .incompressible cause => "Cannot compress payload: " ++ cause.message
  | .described text => text

end RemoteCall
