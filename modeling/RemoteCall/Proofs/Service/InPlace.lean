import RemoteCall.Proofs.Envelope.Header
import RemoteCall.Proofs.Service.Failing

/-!
# Typed calls in place

A call with types writes its arguments into bytes, and a method made of a handler reads them, runs
the handler on a fresh reply, and writes that into bytes again, which the caller reads.  If both
values are read back as they were written (`Payload.IsReadBack`), and no failure is without a text,
nothing of this shows: the call comes to what the handler comes to (`Registry.call_eq_seen`).
-/

namespace RemoteCall

/-- The value has a byte form, and is what is read off it. -/
def Payload.IsReadBack {α : Type} [Payload α] (a : α) : Prop :=
  ∃ bytes, Payload.encode a = .ok bytes ∧ Payload.read α bytes = .ok a

/-- What a caller with types should see of a run; `none` if it does not come back. -/
def Handling.seen {β : Type} : Handling β → Option (Except CallError β)
  | .done reply => some (.ok reply)
  | .failed _ error => some (.error (.application error.message))
  | .panicked => none

/-- A call comes to a value exactly if the handler, applied directly, leaves it in its reply, and to
a failure with a text exactly if the handler fails with this text. -/
structure Mirrors {β : Type} (call : Option (Except CallError β)) (direct : Handling β) : Prop where
  ok_iff : ∀ reply, call = some (.ok reply) ↔ direct = .done reply
  failed_iff : ∀ text, call = some (.error (.application text)) ↔
    ∃ reply, direct = .failed reply ⟨text⟩

theorem Mirrors.of_seen {β : Type} {call : Option (Except CallError β)} {direct : Handling β}
    (h : call = direct.seen) : Mirrors call direct := by
  subst h
  constructor
  · intro reply
    cases direct <;> simp [Handling.seen]
  · intro text
    cases direct with
    | done reply => simp [Handling.seen]
    | panicked => simp [Handling.seen]
    | failed reply error =>
      obtain ⟨message⟩ := error
      simp [Handling.seen]

namespace Payload

variable {α : Type} [Payload α]

/-- What is read back with anything behind it is read back on its own. -/
theorem isReadBack_of_decode {a : α} {bytes : Bytes} (hencode : encode a = .ok bytes)
    (hdecode : decode (bytes ++ []) = .ok (a, [])) : IsReadBack a := by
  refine ⟨bytes, hencode, ?_⟩
  rw [List.append_nil] at hdecode
  rw [read, Decoder.run, hdecode]

theorem decode_int32_append (n : Int32) (rest : Bytes) :
    (decode : Decoder Int32) (Bytes.littleEndian 4 n.toUInt32.toNat ++ rest) = .ok (n, rest) := by
  have hn := n.toUInt32.toNat_lt
  show (Decoder.number 4 >>= fun k => Pure.pure (UInt32.ofNat k).toInt32) _ = _
  rw [Decoder.bind_ok (Decoder.number_append (by omega) rest), Decoder.pure_apply,
    UInt32.ofNat_toNat, Int32.toInt32_toUInt32]

end Payload

section

variable {α β : Type} [Payload α] [Shown α] [Payload β] [Shown β] {r : Registry Method}
  {name : String} {handler : Handler α β} {fresh : β} {request : α}

/-- **A call in place comes to what its handler comes to.** -/
theorem Registry.call_eq_seen (hlookup : r.lookup name = .ok (.ofHandler handler fresh))
    (hrequest : Payload.IsReadBack request)
    (hreply : ∀ reply, handler request fresh = .done reply → Payload.IsReadBack reply)
    (htext : ∀ reply error, handler request fresh = .failed reply error → error.message ≠ "") :
    call r.callRaw name request β = (handler request fresh).seen := by
  obtain ⟨payload, hencode, hread⟩ := hrequest
  cases hrun : handler request fresh with
  | done reply =>
    obtain ⟨bytes, hbytes, hback⟩ := hreply reply hrun
    have hdispatch : r.dispatch name payload
        = .replied [Method.handledEvent name request reply none] (.ok bytes) := by
      rw [Registry.dispatch, hlookup]
      simp only [Method.ofHandler, Method.run, hread, hrun, hbytes]
    have hraw : r.callRaw name payload = some (.ok bytes) := by
      rw [Registry.callRaw, hdispatch]
      rfl
    rw [call, hencode]
    simp only [hraw, Option.map_some, readReply, hback]
    rfl
  | failed reply error =>
    have hfails : r.Fails name payload error :=
      .intro handler fresh reply request hlookup rfl hread hrun
    rw [hfails.call hencode, ServiceError.seen_of_ne (htext reply error hrun)]
    rfl
  | panicked =>
    have hraw : r.callRaw name payload = none := by
      rw [Registry.callRaw, Registry.dispatch, hlookup]
      simp only [Method.ofHandler, Method.run, hread, hrun]
    rw [call, hencode]
    simp only [hraw, Option.map_none]
    rfl

end

end RemoteCall
