import RemoteCall.Conversation
import RemoteCall.Proofs.Server.Responses

/-!
# What travels between client and server

A call travels as two envelopes, the request and the answer of the registry.  `Setup.Admits` says
that both have frames within the limits of both sides.  Then the server reads the request as it was
asked, has a frame for the answer, and the client makes of that frame what a caller in the same
process would make of the reply.
-/

namespace RemoteCall

/-- The frame body of an envelope, if it has one. -/
def bodyOf (header : Header) (payload : Bytes) : Bytes :=
  (Envelope.encode header payload).toOption.getD []

/-- The request that call `i` sends. -/
def Client.Call.request (c : Client.Call) (i : Nat) : Connection.Request :=
  ⟨c.method, UInt64.ofNat i, c.payload⟩

/-- The frame body of a request. -/
def Connection.Request.body (r : Connection.Request) : Bytes :=
  bodyOf (.request r.method r.seq) r.payload

/-- The frame body of the answer to a request. -/
def Connection.Setup.response (setup : Connection.Setup) (r : Connection.Request) : Bytes :=
  bodyOf (.response r.seq (setup.answer r).kind (setup.answer r).error) (setup.answer r).payload

namespace Conversation

open Connection (Request)

/-- Both sides within limits that four bytes can tell. -/
structure Setup.IsClamped (setup : Setup) : Prop where
  client : setup.client.frameLimit ≤ Frame.longest
  server : setup.server.frameLimit ≤ Frame.longest

/-- An envelope that has a frame within the limits of both sides. -/
def Setup.Carries (setup : Setup) (header : Header) (payload : Bytes) : Prop :=
  ∃ body, Envelope.encode header payload = .ok body ∧ body.length ≤ setup.client.frameLimit ∧
    body.length ≤ setup.server.frameLimit

/-- A request that can travel, and whose answer can travel, whatever the registry says. -/
structure Setup.Admits (setup : Setup) (r : Request) : Prop where
  asked : setup.Carries (.request r.method r.seq) r.payload
  answered : setup.Carries (.response r.seq (setup.server.answer r).kind
    (setup.server.answer r).error) (setup.server.answer r).payload

variable {setup : Setup} {header : Header} {payload : Bytes} {r : Request}

theorem Setup.Carries.encode (h : setup.Carries header payload) :
    Envelope.encode header payload = .ok (bodyOf header payload) := by
  obtain ⟨body, hbody, _⟩ := h
  rw [bodyOf, hbody]
  rfl

theorem Setup.Carries.length_le (h : setup.Carries header payload) :
    (bodyOf header payload).length ≤ setup.client.frameLimit ∧
      (bodyOf header payload).length ≤ setup.server.frameLimit := by
  obtain ⟨body, hbody, hlen⟩ := h
  rw [bodyOf, hbody]
  exact hlen

theorem Setup.Carries.decode (hlimits : setup.IsClamped) (h : setup.Carries header payload) :
    ∃ block, Envelope.decode (bodyOf header payload)
      = .ok ⟨Envelope.sealHeader header payload block, payload⟩ :=
  Envelope.decode_encode_of_le h.encode h.length_le.1 hlimits.client

/-- The server reads a request as it was asked. -/
theorem Setup.Admits.decode_body (hlimits : setup.IsClamped) (h : setup.Admits r) :
    ∃ e, Envelope.decode r.body = .ok e ∧ ⟨e.header.method, e.header.seq, e.payload⟩ = r := by
  obtain ⟨block, hdecode⟩ := h.asked.decode hlimits
  exact ⟨_, hdecode, rfl⟩

/-- What a client makes of an envelope that carries a reply. -/
theorem outcomeOf_of_carried {reply : Reply} {seq : UInt64} {e : Envelope}
    (h : reply.IsCarriedBy seq e) : Client.State.outcomeOf e = reply.result := by
  obtain ⟨_, _, hkind, herror, hpayload⟩ := h
  rw [Client.State.outcomeOf, Reply.result, Header.isError, Reply.isOk, hkind, herror, hpayload]
  by_cases hempty : reply.error = ""
  · simp [hempty]
  · simp [hempty]

/-- The client makes of the answer what a caller in the same process makes of the reply. -/
theorem Setup.Admits.decode_response (hlimits : setup.IsClamped) (h : setup.Admits r) :
    ∃ e, Envelope.decode (setup.server.response r) = .ok e ∧ e.header.seq = r.seq ∧
      Client.State.outcomeOf e = (setup.server.answer r).result := by
  obtain ⟨block, hdecode⟩ := h.answered.decode hlimits
  refine ⟨_, hdecode, rfl, ?_⟩
  exact outcomeOf_of_carried ⟨rfl, rfl, rfl, rfl, rfl⟩

/-- The server has a frame for the answer. -/
theorem Setup.Admits.frame (h : setup.Admits r) :
    (setup.server.answer r).frame setup.server.frameLimit r.seq
      = .ok (Frame.encode (setup.server.response r)) := by
  rw [Reply.frame, h.answered.encode]
  exact if_pos h.answered.length_le.2

/-- So it does not send the substitute. -/
theorem Setup.Admits.outcome (h : setup.Admits r) :
    setup.server.outcome r = .ok (Frame.encode (setup.server.response r)) := by
  rw [Connection.Setup.outcome, Reply.frameOrSubstitute, h.frame]

end Conversation

end RemoteCall
