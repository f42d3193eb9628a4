import RemoteCall.Proofs.Envelope.Parsing
import RemoteCall.Proofs.Snappy.Elements
import RemoteCall.Envelope.Frame

/-!
# The format of a body

A body is the byte form of a header and a block behind it.  The header without its error text has at
most 1024 bytes, and it tells the block's checksum and how many bytes the block expands to.
`IsForm` says this without any reading.

Reading accepts exactly such bodies, whatever else a peer may send (`decode_eq_ok_iff`); a body has
the form in one way only (`IsForm.unique`), although nothing in it marks where the header ends; and
every other body is reported as one that breaks the format.
-/

namespace RemoteCall.Envelope

/-- The body is made of this header and this block, which stands for the payload. -/
structure IsForm (body : Bytes) (header : Header) (block payload : Bytes) : Prop where
  split : body = header.encode ++ block
  /-- The eight bytes in front of the error text tell its length. -/
  measured : header.errorLength < 2 ^ 64
  short : header.encode.length - header.errorLength ≤ maxHeaderLength
  checksum : Checksum.crc32c block = header.checksum
  expands : Snappy.expand block = .ok payload
  rawLength : payload.length = header.rawLength.toNat

variable {body block payload : Bytes} {header : Header}

/-- A header that is short enough has a target whose length can be told. -/
theorem IsForm.isMeasured (h : IsForm body header block payload) : header.IsMeasured := by
  have hlen := Header.length_encode header
  have hshort : header.encode.length - header.errorLength ≤ 1024 := h.short
  exact ⟨by omega, h.measured⟩

/-- A block is opened where it expands to as many bytes as were declared. -/
theorem openBlock_eq_ok_iff {declared : Nat} :
    openBlock declared block = .ok payload ↔
      Snappy.expand block = .ok payload ∧ payload.length = declared := by
  constructor
  · intro h
    rw [openBlock] at h
    split at h
    · cases h
    · next held hheld =>
      split at h
      · next hsame =>
        split at h
        · cases h
        · next found hfound =>
          have hpayload : found = payload := Except.ok.inj h
          subst hpayload
          have hlength := Snappy.announcedLength_of_expand hfound
          rw [hheld] at hlength
          exact ⟨hfound, (Except.ok.inj hlength).symm.trans hsame⟩
      · cases h
  · rintro ⟨hexpand, rfl⟩
    rw [openBlock, Snappy.announcedLength_of_expand hexpand]
    simp only [if_true, hexpand]

/-- The header is read and found short enough whatever stands behind it. -/
theorem IsForm.reads (h : IsForm body header block payload) (other : Bytes) :
    Header.decode (header.encode ++ other) = .ok (header, other) ∧
      headerFits ((header.encode ++ other).length - other.length) header.errorLength = true := by
  refine ⟨Header.decode_eq_ok_iff.mpr ⟨rfl, h.isMeasured⟩, ?_⟩
  rw [List.length_append, Nat.add_sub_cancel]
  exact decide_eq_true h.short

/-- **Reading accepts exactly the format.** -/
theorem decode_eq_ok_iff :
    decode body = .ok ⟨header, payload⟩ ↔ ∃ block, IsForm body header block payload := by
  constructor
  · intro h
    rw [decode] at h
    split at h
    · cases h
    · next found block hread =>
      obtain ⟨hsplit, hmeasured⟩ := Header.decode_eq_ok_iff.mp hread
      simp only at h
      split at h
      · next hfits =>
        split at h
        · next hsum =>
          split at h
          · cases h
          · next opened hopen =>
            obtain ⟨rfl, rfl⟩ := Envelope.mk.inj (Except.ok.inj h)
            obtain ⟨hexpand, hlength⟩ := openBlock_eq_ok_iff.mp hopen
            -- what was read in front of the block is the byte form of the header
            have hfront : body.length - block.length = found.encode.length := by
              rw [hsplit, List.length_append, Nat.add_sub_cancel]
            have hshort : found.encode.length - found.errorLength ≤ maxHeaderLength := by
              rw [← hfront]
              exact of_decide_eq_true hfits
            exact ⟨block, hsplit, hmeasured.error, hshort, hsum, hexpand, hlength⟩
        · cases h
      · cases h
  · rintro ⟨block, hform⟩
    obtain ⟨hread, hfits⟩ := hform.reads block
    have hopen := openBlock_eq_ok_iff.mpr ⟨hform.expands, hform.rawLength⟩
    rw [hform.split]
    simp only [decode, hread, hfits, if_true, hform.checksum, hopen]

/-- **A body has the form in one way only.** -/
theorem IsForm.unique {header' : Header} {block' payload' : Bytes}
    (h : IsForm body header block payload) (h' : IsForm body header' block' payload') :
    header = header' ∧ block = block' ∧ payload = payload' := by
  have hread := Header.decode_eq_ok_iff.mpr ⟨h.split, h.isMeasured⟩
  have hread' := Header.decode_eq_ok_iff.mpr ⟨h'.split, h'.isMeasured⟩
  obtain ⟨rfl, rfl⟩ := Prod.mk.inj (Except.ok.inj (hread.symm.trans hread'))
  exact ⟨rfl, rfl, Except.ok.inj (h.expands.symm.trans h'.expands)⟩

/-- Whatever is wrong with a body, it breaks the format. -/
theorem isProtocol_of_decode {cause : LinkError} (h : decode body = .error cause) :
    cause.isProtocol = true := by
  rw [decode] at h
  split at h
  · rw [← Except.error.inj h]
    rfl
  · simp only at h
    split at h
    · split at h
      · split at h
        · rw [← Except.error.inj h]
          rfl
        · cases h
      · rw [← Except.error.inj h]
        rfl
    · rw [← Except.error.inj h]
      rfl

/-- A header takes its bytes from the front of what it is read from, its error text among them; so
the lengths that reading subtracts are never more than what they are subtracted from. -/
theorem length_le_of_decode_header (h : Header.decode body = .ok (header, block)) :
    block.length ≤ body.length ∧ header.errorLength ≤ body.length - block.length := by
  obtain ⟨hsplit, _⟩ := Header.decode_eq_ok_iff.mp h
  have hlen := Header.length_encode header
  rw [hsplit, List.length_append]
  omega

/-- **The format is what reading accepts, in one way, and all else is refused as broken.**  This
holds of every byte string. -/
theorem format_of_decode (body : Bytes) :
    (∀ header payload, decode body = .ok ⟨header, payload⟩ ↔
      ∃ block, IsForm body header block payload) ∧
    (∀ header block payload header' block' payload', IsForm body header block payload →
      IsForm body header' block' payload' →
        header = header' ∧ block = block' ∧ payload = payload') ∧
    ((¬ ∃ header block payload, IsForm body header block payload) →
      ∃ cause, decode body = .error cause ∧ cause.isProtocol = true) ∧
    (∀ header rest, Header.decode body = .ok (header, rest) →
      rest.length ≤ body.length ∧ header.errorLength ≤ body.length - rest.length) := by
  refine ⟨fun _ _ => decode_eq_ok_iff, fun _ _ _ _ _ _ => IsForm.unique, ?_,
    fun _ _ => length_le_of_decode_header⟩
  intro hnone
  cases hdecode : decode body with
  | error cause => exact ⟨cause, rfl, isProtocol_of_decode hdecode⟩
  | ok e =>
    obtain ⟨block, hform⟩ := decode_eq_ok_iff.mp hdecode
    exact absurd ⟨e.header, block, e.payload, hform⟩ hnone

end RemoteCall.Envelope
