import RemoteCall.Bytes.Range
import RemoteCall.Envelope.Basic

/-!
# Headers are read back as they were written

The header stands at the front of a frame with nothing that marks its end, so reading has to stop
exactly where writing stopped.  Each part either has a fixed width or stands behind its length; so
each is read back whatever follows it (`Decoder.number_append`, `Decoder.text_append`), and the six
parts together are the header (`Header.decode_append`).  The lengths have eight bytes, which bounds
the texts.
-/

namespace RemoteCall

namespace Decoder

variable {α β : Type}

theorem bind_ok {d : Decoder α} {f : α → Decoder β} {bs rest : Bytes} {a : α}
    (h : d bs = .ok (a, rest)) : (d >>= f) bs = f a rest := by
  show Decoder.bind d f bs = f a rest
  rw [Decoder.bind, h]

theorem pure_apply (a : α) (bs : Bytes) : (Pure.pure a : Decoder α) bs = .ok (a, bs) := rfl

theorem bytes_append (short : CodecError) (front rest : Bytes) :
    bytes short front.length (front ++ rest) = .ok (front, rest) := by
  rw [bytes, Bytes.splitFront_eq_some_iff.mpr ⟨rfl, rfl⟩]

/-- A number is read back if it fits the width, whatever follows it. -/
theorem number_append {width n : Nat} (h : n < 256 ^ width) (rest : Bytes) :
    number width (Bytes.littleEndian width n ++ rest) = .ok (n, rest) := by
  have hb := bytes_append .endOfInput (Bytes.littleEndian width n) rest
  rw [Bytes.littleEndian_length] at hb
  rw [number, hb]
  show Except.ok (Bytes.ofLittleEndian (Bytes.littleEndian width n), rest) = .ok (n, rest)
  rw [Bytes.ofLittleEndian_littleEndian, Nat.mod_eq_of_lt h]

/-- A text is read back, whatever follows it. -/
theorem text_append {s : String} (h : (Utf8.encode s).length < 2 ^ 64) (rest : Bytes) :
    text (Payload.encodeText s ++ rest) = .ok (s, rest) := by
  have hcount : count (Payload.encodeText s ++ rest)
      = .ok ((Utf8.encode s).length, Utf8.encode s ++ rest) := by
    rw [Payload.encodeText, List.append_assoc]
    exact number_append (by omega) _
  rw [text, bind_ok hcount, bind_ok (bytes_append _ _ _), Utf8.decode?_encode]
  rfl

end Decoder

namespace Payload

theorem decode_string_append {s : String} (h : (Utf8.encode s).length < 2 ^ 64) (rest : Bytes) :
    (decode : Decoder String) (encodeText s ++ rest) = .ok (s, rest) :=
  Decoder.text_append h rest

theorem decode_uint64_append (n : UInt64) (rest : Bytes) :
    (decode : Decoder UInt64) (Bytes.littleEndian 8 n.toNat ++ rest) = .ok (n, rest) := by
  have hn := n.toNat_lt
  show (Decoder.number 8 >>= fun k => Pure.pure (UInt64.ofNat k)) _ = _
  rw [Decoder.bind_ok (Decoder.number_append (by omega) rest), Decoder.pure_apply,
    UInt64.ofNat_toNat]

theorem decode_uint32_append (n : UInt32) (rest : Bytes) :
    (decode : Decoder UInt32) (Bytes.littleEndian 4 n.toNat ++ rest) = .ok (n, rest) := by
  have hn := n.toNat_lt
  show (Decoder.number 4 >>= fun k => Pure.pure (UInt32.ofNat k)) _ = _
  rw [Decoder.bind_ok (Decoder.number_append (by omega) rest), Decoder.pure_apply,
    UInt32.ofNat_toNat]

theorem decode_errorKind_append (kind : ErrorKind) (rest : Bytes) :
    (decode : Decoder ErrorKind) (Bytes.littleEndian 4 kind.index ++ rest) = .ok (kind, rest) := by
  have hk : kind.index < 256 ^ 4 := by cases kind <;> decide
  have hall : ErrorKind.all[kind.index]? = some kind := by cases kind <;> rfl
  refine (Decoder.bind_ok (Decoder.number_append hk rest)).trans ?_
  simp only [hall]
  rfl

end Payload

namespace Header

/-- The length of a header is that of its two texts and forty bytes more. -/
theorem length_encode (h : Header) :
    h.encode.length = 40 + (Utf8.encode h.method).length + h.errorLength := by
  simp only [encode, Payload.encodeText, Payload.encodeCount, errorLength, List.length_append,
    Bytes.littleEndian_length]
  omega

/-- **A header is read back** off the front of whatever it was written in front of. -/
theorem decode_append (h : Header) (rest : Bytes) (hm : (Utf8.encode h.method).length < 2 ^ 64)
    (he : h.errorLength < 2 ^ 64) : decode (h.encode ++ rest) = .ok (h, rest) := by
  have hd : (Payload.decode : Decoder Header) (h.encode ++ rest) = .ok (h, rest) := by
    simp only [encode, List.append_assoc]
    -- the parts in the order in which the decoder reads them
    refine (Decoder.bind_ok (Payload.decode_string_append hm _)).trans ?_
    refine (Decoder.bind_ok (Payload.decode_uint64_append _ _)).trans ?_
    refine (Decoder.bind_ok (Payload.decode_string_append he _)).trans ?_
    refine (Decoder.bind_ok (Payload.decode_errorKind_append _ _)).trans ?_
    refine (Decoder.bind_ok (Payload.decode_uint64_append _ _)).trans ?_
    exact Decoder.bind_ok (Payload.decode_uint32_append _ _)
  rw [decode, Decoder.mapError, hd]

end Header

end RemoteCall
