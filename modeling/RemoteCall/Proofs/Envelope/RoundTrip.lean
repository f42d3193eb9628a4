import RemoteCall.Proofs.Envelope.Format
import RemoteCall.Proofs.Snappy.RoundTrip
import RemoteCall.Frame.Basic

/-!
# Envelopes are read back as they were written

A body is the sealed header in front of the compressed payload, and that is the form which reading
accepts (`isForm_of_encode`): the writer found the header short enough, the checksum is that of the
same block, and the block expands to the payload (`Snappy.expand_compress`).  So whatever can be
written is read back, and what cannot be written is told by two lengths alone
(`encode_eq_error_iff`).

The one thing that the writer does not look at is whether the error text's length fits into eight
bytes.  A text that a machine of 64 bits can hold is below that, so the results ask for it.
-/

namespace RemoteCall

/-- The compressor refuses inputs by their length alone. -/
theorem Snappy.compress_eq_error_iff {input : Bytes} {cause : Snappy.Error} :
    compress input = .error cause ↔
      maxLength < worstLength input.length ∧ cause = .tooLong input.length := by
  rw [compress]
  split
  · next hworst =>
    rw [Except.error.injEq]
    exact ⟨fun h => ⟨hworst, h.symm⟩, fun h => h.2.symm⟩
  · next hworst =>
    constructor
    · intro h
      cases h
    · intro h
      exact absurd h.1 hworst

namespace Envelope

/-- What a written body consists of. -/
theorem encode_eq_ok {header : Header} {payload body : Bytes}
    (h : encode header payload = .ok body) :
    ∃ block, Snappy.compress payload = .ok block ∧
      body = (sealHeader header payload block).encode ++ block ∧
      headerFits (sealHeader header payload block).encode.length header.errorLength = true := by
  unfold encode at h
  split at h
  · cases h
  · next block hblock =>
    simp only at h
    split at h
    · next hfits =>
      cases h
      exact ⟨block, hblock, rfl, hfits⟩
    · cases h

theorem length_lt_of_compress {payload block : Bytes} (h : Snappy.compress payload = .ok block) :
    payload.length < 2 ^ 64 := by
  unfold Snappy.compress at h
  split at h
  · cases h
  · next hworst =>
    have hmax : Snappy.maxLength < 2 ^ 64 := by decide
    rw [Snappy.worstLength] at hworst
    omega

/-- Sealing a header changes neither its texts nor, with them, its length. -/
theorem length_encode_sealHeader (header : Header) (payload block : Bytes) :
    (sealHeader header payload block).encode.length
      = 40 + (Utf8.encode header.method).length + header.errorLength :=
  Header.length_encode (sealHeader header payload block)

/-- **What is written has the form that is read.** -/
theorem isForm_of_encode {header : Header} {payload body : Bytes}
    (h : encode header payload = .ok body) (herror : header.errorLength < 2 ^ 64) :
    ∃ block, Snappy.compress payload = .ok block ∧
      IsForm body (sealHeader header payload block) block payload := by
  obtain ⟨block, hblock, hbody, hfits⟩ := encode_eq_ok h
  -- the length of the payload is not cut off by the eight bytes that it has in the header
  have hraw : payload.length = (UInt64.ofNat payload.length).toNat := by
    rw [UInt64.toNat_ofNat', Nat.mod_eq_of_lt (length_lt_of_compress hblock)]
  exact ⟨block, hblock, hbody, herror, of_decide_eq_true hfits, rfl,
    (Snappy.expand_compress hblock).2, hraw⟩

/-- **An envelope is read back**: the payload, and the header with the payload's length and the
checksum filled in. -/
theorem decode_encode {header : Header} {payload body : Bytes}
    (h : encode header payload = .ok body) (hlen : body.length < 2 ^ 64) :
    ∃ block, decode body = .ok ⟨sealHeader header payload block, payload⟩ := by
  have herror : header.errorLength < 2 ^ 64 := by
    obtain ⟨block, _, hbody, _⟩ := encode_eq_ok h
    rw [hbody, List.length_append, length_encode_sealHeader] at hlen
    omega
  obtain ⟨block, _, hform⟩ := isForm_of_encode h herror
  exact ⟨block, decode_eq_ok_iff.mpr ⟨block, hform⟩⟩

/-- What a reader of a frame makes of a body within its limit. -/
theorem decode_encode_of_le {header : Header} {payload body : Bytes} {limit : Nat}
    (h : encode header payload = .ok body) (hlen : body.length ≤ limit)
    (hlimit : limit ≤ Frame.longest) :
    ∃ block, decode body = .ok ⟨sealHeader header payload block, payload⟩ := by
  have hlongest : Frame.longest < 2 ^ 64 := by decide
  exact decode_encode h (by omega)

/-! ## What can be written -/

/-- Whether a header may travel depends on the length of its target, however long its error text
is. -/
theorem headerFits_sealHeader (header : Header) (payload block : Bytes) :
    headerFits (sealHeader header payload block).encode.length header.errorLength = true ↔
      40 + (Utf8.encode header.method).length ≤ maxHeaderLength := by
  rw [headerFits, length_encode_sealHeader, Nat.add_sub_cancel, decide_eq_true_iff]

/-- **Writing fails in two ways**, for the length of the payload or for that of the target. -/
theorem encode_eq_error_iff {header : Header} {payload : Bytes} {cause : LinkError} :
    encode header payload = .error cause ↔
      Snappy.maxLength < Snappy.worstLength payload.length ∧
          cause = .codec (.incompressible (.tooLong payload.length)) ∨
        Snappy.worstLength payload.length ≤ Snappy.maxLength ∧
          maxHeaderLength < 40 + (Utf8.encode header.method).length ∧
          cause = .frame .headerTooLarge := by
  rw [encode]
  cases hcompress : Snappy.compress payload with
  | error refusal =>
    obtain ⟨hlong, rfl⟩ := Snappy.compress_eq_error_iff.mp hcompress
    have hnot : ¬ Snappy.worstLength payload.length ≤ Snappy.maxLength := Nat.not_le.mpr hlong
    simp [hlong, hnot, eq_comm]
  | ok block =>
    have hshort : ¬ Snappy.maxLength < Snappy.worstLength payload.length := by
      intro hlong
      rw [Snappy.compress_eq_error_iff.mpr ⟨hlong, rfl⟩] at hcompress
      cases hcompress
    by_cases hfits : headerFits (sealHeader header payload block).encode.length
        header.errorLength = true
    · have hmethod := (headerFits_sealHeader header payload block).mp hfits
      simp [hfits, hshort, Nat.not_lt.mpr hmethod]
    · have hmethod := mt (headerFits_sealHeader header payload block).mpr hfits
      simp [hfits, hshort, Nat.not_lt.mp hshort, Nat.not_le.mp hmethod, eq_comm]

/-! ## What comes back -/

/-- What is read out of a body is what was written into it.  The header tells, besides, how long the
payload is, and the checksum of the compressed payload that stands behind it. -/
structure Restores (header : Header) (payload body : Bytes) (e : Envelope) : Prop where
  method : e.header.method = header.method
  seq : e.header.seq = header.seq
  error : e.header.error = header.error
  kind : e.header.kind = header.kind
  content : e.payload = payload
  rawLength : e.header.rawLength.toNat = payload.length
  block : ∃ block, body = e.header.encode ++ block ∧ e.header.checksum = Checksum.crc32c block ∧
    Snappy.compress payload = .ok block ∧ Snappy.expand block = .ok payload

/-- **Reading undoes writing**, over all headers and payloads.  Whatever the header was given as
length and checksum, a body that was written is read back; and a body is written unless the
compressor refuses a payload of this length or the target is too long. -/
theorem restores_of_encode (header : Header) (payload : Bytes)
    (h : header.errorLength < 2 ^ 64) :
    (∀ body, encode header payload = .ok body →
      ∃ e, decode body = .ok e ∧ Restores header payload body e) ∧
    ∀ cause, encode header payload = .error cause ↔
      Snappy.maxLength < Snappy.worstLength payload.length ∧
          cause = .codec (.incompressible (.tooLong payload.length)) ∨
        Snappy.worstLength payload.length ≤ Snappy.maxLength ∧
          maxHeaderLength < 40 + (Utf8.encode header.method).length ∧
          cause = .frame .headerTooLarge := by
  refine ⟨?_, fun _ => encode_eq_error_iff⟩
  intro body hbody
  obtain ⟨block, hcompress, hform⟩ := isForm_of_encode hbody h
  refine ⟨_, decode_eq_ok_iff.mpr ⟨block, hform⟩, rfl, rfl, rfl, rfl, rfl, hform.rawLength.symm, ?_⟩
  exact ⟨block, hform.split, rfl, hcompress, hform.expands⟩

/-- A header with a failure text, and with a length and a checksum that are wrong for most
payloads. -/
def mislabelled : Header := ⟨"A.B", 7, "no", .application, 99, 99⟩

/-- The payload repeats itself, and its block is a literal and a copy. -/
theorem restores_mislabelled : ∃ body,
    encode mislabelled (List.replicate 40 3) = .ok body ∧ body.length = 51 ∧
      ∃ e, decode body = .ok e ∧ Restores mislabelled (List.replicate 40 3) body e := by
  have hlength : (encode mislabelled (List.replicate 40 3)).toOption.map List.length = some 51 := by
    decide +kernel
  cases hencode : encode mislabelled (List.replicate 40 3) with
  | error cause =>
    rw [hencode] at hlength
    cases hlength
  | ok body =>
    rw [hencode] at hlength
    have hrestores := (restores_of_encode mislabelled (List.replicate 40 3) (by decide +kernel)).1
    exact ⟨body, rfl, Option.some.inj hlength, hrestores body hencode⟩

end Envelope

end RemoteCall
