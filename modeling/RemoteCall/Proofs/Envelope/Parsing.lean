import RemoteCall.Proofs.Envelope.Header

/-!
# What is read stood there as it would be written

Reading undoes writing, and here is the other direction: whatever a decoder takes off the front of
its input, it is the byte form of the value that it returns, so a value has no second form.  A
decoder that is made of two is inverted part by part (`Decoder.bind_eq_ok_iff`), a number and a text
by what they are made of, and so a header is read exactly where its byte form stands
(`Header.decode_eq_ok_iff`), whatever bytes a peer may send.

A length has eight bytes, so a text of 2⁶⁴ bytes or more has no byte form.  `Header.IsMeasured` says
that both texts of a header have one.
-/

namespace RemoteCall

namespace Decoder

variable {α β : Type}

/-- Two decoders in a row succeed where the first does and the second goes on from there. -/
theorem bind_eq_ok_iff {d : Decoder α} {f : α → Decoder β} {bs rest : Bytes} {b : β} :
    (d >>= f) bs = .ok (b, rest) ↔ ∃ a mid, d bs = .ok (a, mid) ∧ f a mid = .ok (b, rest) := by
  constructor
  · intro h
    have hbind : Decoder.bind d f bs = .ok (b, rest) := h
    rw [Decoder.bind] at hbind
    split at hbind
    · cases hbind
    · next a mid hfirst => exact ⟨a, mid, hfirst, hbind⟩
  · rintro ⟨a, mid, hfirst, hsecond⟩
    rw [bind_ok hfirst, hsecond]

theorem pure_eq_ok_iff {a b : α} {bs rest : Bytes} :
    (Pure.pure a : Decoder α) bs = .ok (b, rest) ↔ a = b ∧ bs = rest := by
  rw [pure_apply, Except.ok.injEq, Prod.mk.injEq]

theorem fail_ne_ok {cause : CodecError} {bs : Bytes} {found : α × Bytes} :
    (fail cause : Decoder α) bs ≠ .ok found := by
  intro h
  cases h

theorem bytes_eq_ok_iff {short : CodecError} {n : Nat} {bs front rest : Bytes} :
    bytes short n bs = .ok (front, rest) ↔ bs = front ++ rest ∧ front.length = n := by
  rw [← Bytes.splitFront_eq_some_iff, bytes]
  cases hsplit : Bytes.splitFront n bs with
  | none => simp
  | some found => simp

/-- A number was read exactly where its bytes stand. -/
theorem number_eq_ok_iff {width n : Nat} {bs rest : Bytes} :
    number width bs = .ok (n, rest) ↔ bs = Bytes.littleEndian width n ++ rest ∧ n < 256 ^ width := by
  constructor
  · intro h
    rw [number] at h
    split at h
    · cases h
    · next front mid hbytes =>
      obtain ⟨hbs, hlen⟩ := bytes_eq_ok_iff.mp hbytes
      obtain ⟨rfl, rfl⟩ := Prod.mk.inj (Except.ok.inj h)
      have hlt := Bytes.ofLittleEndian_lt front
      have hfront := Bytes.littleEndian_ofLittleEndian front
      rw [hlen] at hlt hfront
      exact ⟨by rw [hfront, hbs], hlt⟩
  · rintro ⟨rfl, hlt⟩
    exact number_append hlt rest

/-- A text was read exactly where its length stands and its bytes behind it. -/
theorem text_eq_ok_iff {s : String} {bs rest : Bytes} :
    text bs = .ok (s, rest) ↔
      bs = Payload.encodeText s ++ rest ∧ (Utf8.encode s).length < 2 ^ 64 := by
  constructor
  · intro h
    rw [text] at h
    obtain ⟨length, behind, hcount, hbehind⟩ := bind_eq_ok_iff.mp h
    obtain ⟨utf8, mid, hbytes, htext⟩ := bind_eq_ok_iff.mp hbehind
    obtain ⟨rfl, hlt⟩ := number_eq_ok_iff.mp hcount
    obtain ⟨rfl, rfl⟩ := bytes_eq_ok_iff.mp hbytes
    cases hdecode : Utf8.decode? utf8 with
    | none =>
      rw [hdecode] at htext
      exact absurd htext fail_ne_ok
    | some t =>
      rw [hdecode] at htext
      obtain ⟨rfl, rfl⟩ := pure_eq_ok_iff.mp htext
      -- bytes that are a text are the form of that text, so the length in front is its length
      have hutf8 := Utf8.encode_of_decode? hdecode
      rw [Payload.encodeText, hutf8, Payload.encodeCount, List.append_assoc]
      exact ⟨rfl, by omega⟩
  · rintro ⟨rfl, hlt⟩
    exact text_append hlt rest

end Decoder

namespace Payload

theorem decode_string_eq_ok_iff {s : String} {bs rest : Bytes} :
    (decode : Decoder String) bs = .ok (s, rest) ↔
      bs = encodeText s ++ rest ∧ (Utf8.encode s).length < 2 ^ 64 :=
  Decoder.text_eq_ok_iff

theorem decode_uint64_eq_ok_iff {n : UInt64} {bs rest : Bytes} :
    (decode : Decoder UInt64) bs = .ok (n, rest) ↔
      bs = Bytes.littleEndian 8 n.toNat ++ rest := by
  constructor
  · intro h
    obtain ⟨k, mid, hk, hn⟩ := Decoder.bind_eq_ok_iff.mp h
    obtain ⟨rfl, hlt⟩ := Decoder.number_eq_ok_iff.mp hk
    obtain ⟨rfl, rfl⟩ := Decoder.pure_eq_ok_iff.mp hn
    rw [UInt64.toNat_ofNat', Nat.mod_eq_of_lt (by omega)]
  · rintro rfl
    exact decode_uint64_append n rest

theorem decode_uint32_eq_ok_iff {n : UInt32} {bs rest : Bytes} :
    (decode : Decoder UInt32) bs = .ok (n, rest) ↔
      bs = Bytes.littleEndian 4 n.toNat ++ rest := by
  constructor
  · intro h
    obtain ⟨k, mid, hk, hn⟩ := Decoder.bind_eq_ok_iff.mp h
    obtain ⟨rfl, hlt⟩ := Decoder.number_eq_ok_iff.mp hk
    obtain ⟨rfl, rfl⟩ := Decoder.pure_eq_ok_iff.mp hn
    rw [UInt32.toNat_ofNat', Nat.mod_eq_of_lt (by omega)]
  · rintro rfl
    exact decode_uint32_append n rest

/-- A kind has one number, and every number of a kind tells it. -/
theorem index_of_all {index : Nat} {kind : ErrorKind} (h : ErrorKind.all[index]? = some kind) :
    kind.index = index := by
  match index, h with
  | 0, h => rw [← Option.some.inj h]; rfl
  | 1, h => rw [← Option.some.inj h]; rfl
  | 2, h => rw [← Option.some.inj h]; rfl
  | 3, h => rw [← Option.some.inj h]; rfl

theorem decode_errorKind_eq_ok_iff {kind : ErrorKind} {bs rest : Bytes} :
    (decode : Decoder ErrorKind) bs = .ok (kind, rest) ↔
      bs = Bytes.littleEndian 4 kind.index ++ rest := by
  constructor
  · intro h
    obtain ⟨index, mid, hindex, hchoice⟩ := Decoder.bind_eq_ok_iff.mp h
    obtain ⟨rfl, _⟩ := Decoder.number_eq_ok_iff.mp hindex
    cases hkind : ErrorKind.all[index]? with
    | none =>
      simp only [hkind] at hchoice
      exact absurd hchoice Decoder.fail_ne_ok
    | some found =>
      simp only [hkind] at hchoice
      obtain ⟨rfl, rfl⟩ := Decoder.pure_eq_ok_iff.mp hchoice
      rw [index_of_all hkind]
  · rintro rfl
    exact decode_errorKind_append kind rest

end Payload

namespace Header

/-- Both texts have lengths that the eight bytes in front of them can tell. -/
structure IsMeasured (h : Header) : Prop where
  method : (Utf8.encode h.method).length < 2 ^ 64
  error : h.errorLength < 2 ^ 64

/-- **A header is read exactly where its byte form stands.** -/
theorem decode_eq_ok_iff {h : Header} {bs rest : Bytes} :
    decode bs = .ok (h, rest) ↔ bs = h.encode ++ rest ∧ h.IsMeasured := by
  constructor
  · intro hread
    have hparts : (Payload.decode : Decoder Header) bs = .ok (h, rest) := by
      rw [decode, Decoder.mapError] at hread
      split at hread
      · cases hread
      · next found hfound => rw [hfound, Except.ok.inj hread]
    -- the parts in the order in which the decoder reads them
    obtain ⟨method, bs₁, hmethod, hparts₁⟩ := Decoder.bind_eq_ok_iff.mp hparts
    obtain ⟨seq, bs₂, hseq, hparts₂⟩ := Decoder.bind_eq_ok_iff.mp hparts₁
    obtain ⟨error, bs₃, herror, hparts₃⟩ := Decoder.bind_eq_ok_iff.mp hparts₂
    obtain ⟨kind, bs₄, hkind, hparts₄⟩ := Decoder.bind_eq_ok_iff.mp hparts₃
    obtain ⟨rawLength, bs₅, hraw, hparts₅⟩ := Decoder.bind_eq_ok_iff.mp hparts₄
    obtain ⟨checksum, bs₆, hsum, hparts₆⟩ := Decoder.bind_eq_ok_iff.mp hparts₅
    obtain ⟨hheader, hrest⟩ := Decoder.pure_eq_ok_iff.mp hparts₆
    obtain ⟨hbs, hmethodLength⟩ := Payload.decode_string_eq_ok_iff.mp hmethod
    obtain ⟨hbs₂, herrorLength⟩ := Payload.decode_string_eq_ok_iff.mp herror
    subst hheader
    refine ⟨?_, hmethodLength, herrorLength⟩
    rw [hbs, Payload.decode_uint64_eq_ok_iff.mp hseq, hbs₂,
      Payload.decode_errorKind_eq_ok_iff.mp hkind, Payload.decode_uint64_eq_ok_iff.mp hraw,
      Payload.decode_uint32_eq_ok_iff.mp hsum, hrest]
    simp only [encode, List.append_assoc]
  · rintro ⟨rfl, hmeasured⟩
    exact decode_append h rest hmeasured.method hmeasured.error

end Header

end RemoteCall
