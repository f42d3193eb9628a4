import RemoteCall.Proofs.Checksum
import RemoteCall.Proofs.Envelope.Format
import RemoteCall.Proofs.Snappy.Ending

/-!
# Damaged bodies

What reading makes of a body that was accepted and then came to harm.

Bytes behind it, or bytes missing at its end.  A body has no mark at its end, and yet of two bodies
that are accepted neither is the beginning of the other (`eq_of_isPrefix`): the header is read off
the front of both, so it is the same, and behind a block that expands there is no room for anything
(`Snappy.expand_append`).  The checksum has no part in this.  It can happen to be right for a block
with more or fewer bytes, and then it is the block that is refused (`prefixFree_of_decode`).

A burst of errors in its block.  Here it is the checksum that tells, for a burst within four bytes
always, and nothing else is looked at before it (`detectsBursts_of_decode`).
-/

namespace RemoteCall.Envelope

variable {body block payload : Bytes} {header : Header} {e : Envelope}

/-! ## Another block behind the same header -/

/-- A wrong checksum is reported whatever the block. -/
theorem IsForm.decode_of_checksum_ne (h : IsForm body header block payload) {other : Bytes}
    (hsum : Checksum.crc32c other ≠ header.checksum) :
    decode (header.encode ++ other)
      = .error (.checksum header.checksum (Checksum.crc32c other)) := by
  obtain ⟨hread, hfits⟩ := h.reads other
  simp only [decode, hread, hfits, if_true, if_neg hsum]

/-- With the right checksum it is the block that is refused. -/
theorem IsForm.decode_of_checksum_eq (h : IsForm body header block payload) {other : Bytes}
    (hsum : Checksum.crc32c other = header.checksum) {cause : LinkError}
    (hdecode : decode (header.encode ++ other) = .error cause) :
    ∃ reason, cause = .frame reason := by
  obtain ⟨hread, hfits⟩ := h.reads other
  simp only [decode, hread, hfits, if_true, if_pos hsum] at hdecode
  split at hdecode
  · next reason _ => exact ⟨reason, (Except.error.inj hdecode).symm⟩
  · cases hdecode

/-! ## More or fewer bytes -/

/-- What is accepted does not go on. -/
theorem decode_append {more : Bytes} (h : decode body = .ok e) (hmore : more ≠ []) :
    ∃ cause, decode (body ++ more) = .error cause := by
  obtain ⟨block, hform⟩ := decode_eq_ok_iff.mp h
  cases hdecode : decode (body ++ more) with
  | error cause => exact ⟨cause, rfl⟩
  | ok e' =>
    -- the header would be the same, and the block would be one that goes on
    obtain ⟨block', hform'⟩ := decode_eq_ok_iff.mp hdecode
    have hread := (hform.reads (block ++ more)).1
    have hread' := (hform'.reads block').1
    rw [← List.append_assoc, ← hform.split] at hread
    rw [← hform'.split] at hread'
    obtain ⟨_, hblock⟩ := Prod.mk.inj (Except.ok.inj (hread.symm.trans hread'))
    obtain ⟨cause, hcause⟩ := Snappy.expand_append hform.expands hmore
    rw [hblock, hform'.expands] at hcause
    cases hcause

/-- **Of two accepted bodies neither is the beginning of the other.** -/
theorem eq_of_isPrefix {body' : Bytes} {e' : Envelope} (h : decode body = .ok e)
    (h' : decode body' = .ok e') (hbegins : body <+: body') : body = body' := by
  obtain ⟨more, rfl⟩ := hbegins
  by_contra hne
  have hmore : more ≠ [] := by
    rintro rfl
    exact hne (List.append_nil body).symm
  obtain ⟨cause, hcause⟩ := decode_append h hmore
  rw [h'] at hcause
  cases hcause

/-- Bytes were put behind a byte string, or some were taken off its end. -/
def IsTrimmed (whole other : Bytes) : Prop :=
  other ≠ whole ∧ (whole <+: other ∨ other <+: whole)

theorem IsTrimmed.append_left {whole other : Bytes} (h : IsTrimmed whole other) (front : Bytes) :
    IsTrimmed (front ++ whole) (front ++ other) := by
  refine ⟨fun heq => h.1 (List.append_cancel_left heq), ?_⟩
  rw [List.prefix_append_right_inj, List.prefix_append_right_inj]
  exact h.2

/-- Nothing that was trimmed is accepted. -/
theorem decode_of_isTrimmed {other : Bytes} (h : decode body = .ok e)
    (htrimmed : IsTrimmed body other) :
    ∃ cause, decode other = .error cause ∧ cause.isProtocol = true := by
  obtain ⟨hne, hbegins⟩ := htrimmed
  cases hdecode : decode other with
  | error cause => exact ⟨cause, rfl, isProtocol_of_decode hdecode⟩
  | ok e' =>
    rcases hbegins with hbegins | hbegins
    · exact absurd (eq_of_isPrefix h hdecode hbegins).symm hne
    · exact absurd (eq_of_isPrefix hdecode h hbegins) hne

/-- **Accepted bodies are free of prefixes.**  A body with bytes behind it is refused as broken, and
so is one of which bytes are missing at the end, whatever the checksum of the rest; if that happens
to be right, the reason lies in the block. -/
theorem prefixFree_of_decode (h : decode body = .ok e) :
    (∀ more, more ≠ [] →
      ∃ cause, decode (body ++ more) = .error cause ∧ cause.isProtocol = true) ∧
    (∀ part, part <+: body → part ≠ body →
      ∃ cause, decode part = .error cause ∧ cause.isProtocol = true) ∧
    ∃ block, IsForm body e.header block e.payload ∧
      ∀ other, IsTrimmed block other →
        (Checksum.crc32c other = e.header.checksum →
          ∃ reason, decode (e.header.encode ++ other) = .error (.frame reason)) ∧
        (Checksum.crc32c other ≠ e.header.checksum →
          decode (e.header.encode ++ other)
            = .error (.checksum e.header.checksum (Checksum.crc32c other))) := by
  obtain ⟨block, hform⟩ := decode_eq_ok_iff.mp h
  refine ⟨?_, ?_, block, hform, ?_⟩
  · intro more hmore
    exact decode_of_isTrimmed h ⟨by simpa using hmore, Or.inl (List.prefix_append body more)⟩
  · intro part hpart hne
    exact decode_of_isTrimmed h ⟨hne, Or.inr hpart⟩
  · intro other htrimmed
    refine ⟨?_, fun hsum => hform.decode_of_checksum_ne hsum⟩
    intro hsum
    have hother := htrimmed.append_left e.header.encode
    rw [← hform.split] at hother
    obtain ⟨cause, hcause, _⟩ := decode_of_isTrimmed h hother
    obtain ⟨reason, rfl⟩ := hform.decode_of_checksum_eq hsum hcause
    exact ⟨reason, hcause⟩

/-- A literal of eight bytes, of which the last four leave the checksum as it was without them. -/
def collidingBlock : Bytes := [8, 28, 1, 2, 3, 4, 128, 201, 16, 201]

/-- The header in front of it. -/
def collidingHeader : Header := ⟨"A.B", 7, "", .none, 8, 4235949908⟩

/-- The checksum is right with these four bytes once, twice and not at all, and only once is the
body accepted. -/
theorem prefixFree_of_collidingBlock :
    decode (collidingHeader.encode ++ collidingBlock)
        = .ok ⟨collidingHeader, [1, 2, 3, 4, 128, 201, 16, 201]⟩ ∧
      ∀ other ∈ [collidingBlock ++ [128, 201, 16, 201], collidingBlock.take 6],
        Checksum.crc32c other = collidingHeader.checksum ∧
          ∃ reason, decode (collidingHeader.encode ++ other) = .error (.frame reason) := by
  have haccepted : decode (collidingHeader.encode ++ collidingBlock)
      = .ok ⟨collidingHeader, [1, 2, 3, 4, 128, 201, 16, 201]⟩ := by decide +kernel
  refine ⟨haccepted, ?_⟩
  obtain ⟨_, _, block, hform, hblocks⟩ := prefixFree_of_decode haccepted
  obtain rfl : collidingBlock = block := List.append_cancel_left hform.split
  intro other hother
  have hsum : Checksum.crc32c other = collidingHeader.checksum ∧ IsTrimmed collidingBlock other := by
    rcases List.mem_cons.mp hother with rfl | hother
    · exact ⟨by decide +kernel, by decide, Or.inl (List.prefix_append ..)⟩
    · rw [List.mem_singleton.mp hother]
      exact ⟨by decide +kernel, by decide, Or.inr ⟨_, List.take_append_drop 6 _⟩⟩
  exact ⟨hsum.1, (hblocks other hsum.2).1 hsum.1⟩

/-! ## Other bytes in the block -/

/-- **Bursts are told by the checksum.**  The header of an accepted body is read, the rest is the
block, and another block behind the same header, with something else in a window of four bytes, is
refused because its checksum is not the one in the header. -/
theorem detectsBursts_of_decode (h : decode body = .ok e) :
    ∃ block, Header.decode body = .ok (e.header, block) ∧ body = e.header.encode ++ block ∧
      ∀ other, Checksum.IsBurst 4 block other →
        Checksum.crc32c other ≠ e.header.checksum ∧
          decode (e.header.encode ++ other)
            = .error (.checksum e.header.checksum (Checksum.crc32c other)) := by
  obtain ⟨block, hform⟩ := decode_eq_ok_iff.mp h
  have hread := (hform.reads block).1
  rw [← hform.split] at hread
  refine ⟨block, hread, hform.split, ?_⟩
  intro other hburst
  have hsum : Checksum.crc32c other ≠ e.header.checksum := by
    rw [← hform.checksum]
    exact Checksum.crc32c_ne_of_isBurst hburst
  exact ⟨hsum, hform.decode_of_checksum_ne hsum⟩

/-- Other letters in a literal make a block that expands as well as the first one, and nothing but
the checksum tells. -/
theorem detectsBursts_in_literal :
    Checksum.IsBurst 4 collidingBlock [8, 28, 1, 2, 3, 0, 0, 0, 0, 201] ∧
      Snappy.expand [8, 28, 1, 2, 3, 0, 0, 0, 0, 201] = .ok [1, 2, 3, 0, 0, 0, 0, 201] ∧
      ∃ actual, actual ≠ 4235949908 ∧
        decode (collidingHeader.encode ++ [8, 28, 1, 2, 3, 0, 0, 0, 0, 201])
          = .error (.checksum 4235949908 actual) := by
  have haccepted : decode (collidingHeader.encode ++ collidingBlock)
      = .ok ⟨collidingHeader, [1, 2, 3, 4, 128, 201, 16, 201]⟩ := by decide +kernel
  obtain ⟨block, _, hsplit, hbursts⟩ := detectsBursts_of_decode haccepted
  obtain rfl : collidingBlock = block := List.append_cancel_left hsplit
  have hburst : Checksum.IsBurst 4 collidingBlock [8, 28, 1, 2, 3, 0, 0, 0, 0, 201] :=
    @Checksum.isBurst_of_ne 4 [4, 128, 201, 16] [0, 0, 0, 0] rfl (by decide) (by decide)
      [8, 28, 1, 2, 3] [201]
  obtain ⟨hsum, hdecode⟩ := hbursts _ hburst
  exact ⟨hburst, by decide +kernel, _, hsum, hdecode⟩

end RemoteCall.Envelope
