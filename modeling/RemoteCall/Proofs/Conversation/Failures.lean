import RemoteCall.Demo.Samples
import RemoteCall.Proofs.Conversation.Agreement
import RemoteCall.Proofs.Conversation.Attribution
import RemoteCall.Proofs.Service.Failing

/-!
# Failures over a connection

A caller sees the failure of a handler in the same way wherever the handler is, in place or behind a
connection (`seenAs_of_fails`): as a failure with the handler's own text, and if the text is empty, as
a success without payload (`exists_unseen`).  Over a connection the caller may also be told of a
failure of its own side, which is never a success, whoever closes or cuts off what.
-/

namespace RemoteCall.Conversation

open Connection (Request IsResponse)

variable {setup : Setup} {s : State} {permits : Nat} {client : ClientConfig}
  {server : Serving.Setup} {near far : String} {name : String} {payload : Bytes}
  {error : ServiceError}

/-- The answer to a request on which the handler fails. -/
theorem answer_of_fails (h : setup.server.registry.Fails name payload error) (seq : UInt64) :
    setup.server.answer ⟨name, seq, payload⟩ = .failed .application error.message := by
  obtain ⟨args, reply, hdispatch⟩ := h.dispatch
  rw [Connection.Setup.answer, hdispatch]

/-- What the client makes of that answer. -/
theorem result_of_fails (h : setup.server.registry.Fails name payload error) (seq : UInt64) :
    setup.result ⟨name, seq, payload⟩ = error.seen := by
  rw [Setup.result, answer_of_fails h seq]
  exact Reply.result_failed error

/-- What the client makes of any response to such a request, if the answer has a frame. -/
theorem outcomeOf_of_fails {r : Request} {e : Envelope}
    (h : setup.server.registry.Fails r.method r.payload error) (hadmits : setup.Admits r)
    (hresponse : IsResponse setup.server r e) : Client.State.outcomeOf e = error.seen := by
  obtain ⟨args, shownReply, hdispatch⟩ := h.dispatch
  cases hresponse with
  | dispatched events reply hreplied hcarried =>
    cases hdispatch.symm.trans hreplied
    exact (outcomeOf_of_carried hcarried).trans (Reply.result_failed error)
  | panicked hpanicked _ => cases hdispatch.symm.trans hpanicked
  | substituted cause hframe _ => cases hadmits.frame.symm.trans hframe

/-- **What a call comes to in any run**: a failure of its own side, or what a response to its request
says. -/
theorem Attributed.outcome (h : Attributed setup s) {i : Nat} {c : Client.Call}
    {outcome : Client.Outcome} (hi : s.client.calls[i]? = some c)
    (hresult : c.result? = some outcome) : Client.isLocal outcome = true ∨
      Answers setup.server s.client i outcome := by
  unfold Client.Call.result? at hresult
  split at hresult
  · next finished hstage =>
    cases hresult
    exact h.client.told (Or.inr ⟨c, hi, Or.inr hstage⟩)
  · next cause hstage =>
    cases hresult
    have happroves := h.client.asking.stages hi
    rw [hstage] at happroves
    exact Or.inl happroves
  · cases hresult

/-- What a call comes to, wherever it is made.  `inPlace` and `typed` are about a caller in the same
process, `always` and `settled` about one behind a connection. -/
structure SeenAs (client : ClientConfig) (server : Serving.Setup) (near far : String)
    (permits : Nat) (name : String) (payload : Bytes) (result : Except CallError Bytes) : Prop where
  inPlace : server.registry.callRaw name payload = some result
  typed : ∀ {α : Type} [Payload α] (args : α), Payload.encode args = .ok payload →
    ∀ (β : Type) [Payload β], call server.registry.callRaw name args β = some (readReply β result)
  /-- Whatever else happens, the call comes to this or to a failure of its own side. -/
  always : ∀ (past : List (Moment State Label Event)) (s : State),
    Run (step (.connected client server near far)) (start permits) past s →
    s.client.calls.length ≤ 2 ^ 64 →
    ∀ (i : Nat) (c : Client.Call) (r : Request), s.client.calls[i]? = some c →
      c.asked? = some r → r.method = name → r.payload = payload →
      (Setup.connected client server near far).Admits r →
      ∀ outcome, c.result? = some outcome → Client.isLocal outcome = true ∨ outcome = result
  /-- If nobody cuts the conversation short, the call comes to this and to nothing else. -/
  settled : ∀ (past : List (Moment State Label Event)) (s : State),
    Run (step (.connected client server near far)) (start permits) past s →
    (∀ m ∈ past, m.label.interrupts = false) → s.client.calls.length ≤ 2 ^ 64 →
    (∀ (i : Nat) (c : Client.Call), s.client.calls[i]? = some c →
      (Setup.connected client server near far).Admits (c.request i)) →
    ∀ (i : Nat) (c : Client.Call), s.client.calls[i]? = some c → c.method = name →
      c.payload = payload → (∀ outcome, c.result? = some outcome → outcome = result) ∧
        (s.IsStuck (.connected client server near far) → c.result? = some result)

theorem always_of_fails {past : List (Moment State Label Event)} (hlimits : setup.IsClamped)
    (hrun : Run (step setup) (start permits) past s) (hfew : s.client.calls.length ≤ 2 ^ 64)
    {i : Nat} {c : Client.Call} {r : Request} {outcome : Client.Outcome}
    (hi : s.client.calls[i]? = some c) (hasked : c.asked? = some r)
    (hfails : setup.server.registry.Fails r.method r.payload error) (hadmits : setup.Admits r)
    (hresult : c.result? = some outcome) :
    Client.isLocal outcome = true ∨ outcome = error.seen := by
  refine ((attributed_of_run hlimits hrun hfew).outcome hi hresult).imp_right ?_
  rintro ⟨d, x, e, hd, hx, hresponse, rfl⟩
  cases hi.symm.trans hd
  cases hasked.symm.trans hx
  exact outcomeOf_of_fails hfails hadmits hresponse

theorem settled_of_fails {past : List (Moment State Label Event)} (hlimits : setup.IsClamped)
    (hpermits : 1 ≤ permits) (hrun : Run (step setup) (start permits) past s)
    (hl : ∀ m ∈ past, m.label.interrupts = false) (hfits : Fits setup s) {i : Nat}
    {c : Client.Call} (hi : s.client.calls[i]? = some c)
    (hfails : setup.server.registry.Fails c.method c.payload error) :
    (∀ outcome, c.result? = some outcome → outcome = error.seen) ∧
      (s.IsStuck setup → c.result? = some error.seen) := by
  have hsteady := steady_of_run hlimits hrun hl hfits
  have hresult : setup.result (c.request i) = error.seen := result_of_fails hfails _
  constructor
  · intro outcome houtcome
    rw [(hsteady.calls.position hi).eq_of_result houtcome]
    exact hresult
  · intro hstuck
    have hfinished := finished_of_stuck hlimits hfits hsteady hpermits hstuck hi
    rw [Client.Call.result?, hfinished, hresult]

/-- **What is seen of a handler's failure**, in place and over a connection: the failure with its
text, for every type of reply, or a success without payload if there is no text. -/
theorem seenAs_of_fails (h : server.registry.Fails name payload error)
    (hpermits : server.config.permits? = some permits) :
    SeenAs client server near far permits name payload error.seen ∧
      (error.message ≠ "" → ∀ (β : Type) [Payload β],
        readReply β error.seen = .error (.application error.message)) := by
  have hlimits := isClamped_connected client server near far
  refine ⟨⟨h.callRaw, fun args hargs β _ => h.call hargs β, ?_, ?_⟩, ?_⟩
  · rintro past s hrun hfew i c r hi hasked rfl rfl hadmits outcome hresult
    exact always_of_fails hlimits hrun hfew hi hasked h hadmits hresult
  · rintro past s hrun hl hfew hfits i c hi rfl rfl
    exact settled_of_fails hlimits (ServerConfig.one_le_permits hpermits) hrun hl
      ⟨hfew, fun hi => hfits _ _ hi⟩ hi h
  · intro hne β _
    rw [ServiceError.seen_of_ne hne]
    rfl

/-! ## A server whose handler fails -/

/-- A server with one method, which fails with the text of its request. -/
def failServer : Serving.Setup where
  registry := ⟨[("Lab", [("Fail", Demo.Sample.fail.method)])]⟩
  config := .default

theorem fails_of_text {text : String} (h : (Utf8.encode text).length < 2 ^ 64) :
    failServer.registry.Fails "Lab.Fail" (Payload.encodeText text) ⟨text⟩ := by
  refine .intro (fun (text : String) (reply : Unit) => .failed reply ⟨text⟩) () () text rfl rfl ?_
    rfl
  have hread := Payload.decode_string_append h []
  rw [List.append_nil] at hread
  rw [Payload.read, Decoder.run, hread]

/-- One call, whose request and whose answer have frames of so many bytes. -/
def failLabels (text : String) (asked answered : Nat) : List Label :=
  [.client (.call "Lab.Fail" (Payload.encodeText text) false), .client (.frame 0),
    .client (.submit 0), .client .dequeue, .client (.write asked), .carryRequests asked,
    .server .announce, .server .read, .server .acquire, .server (.handle 0),
    .server (.takeWriter 0), .server (.write answered), .server (.report 0 0),
    .carryResponses answered, .client .receive, .client .readerAct, .client (.collect 0)]

theorem run_of_labels {labels : List Label} {c : Client.Call}
    (hruns : (replay (step (.connected .default failServer "client" "server")) (start 256)
      labels).map (fun r => (r.1.all fun m => !m.label.interrupts, r.2.client.calls))
      = some (true, [c]))
    (hadmits : (Setup.connected .default failServer "client" "server").Admits (c.request 0)) :
    ∃ past s, Run (step (.connected .default failServer "client" "server")) (start 256) past s ∧
      (∀ m ∈ past, m.label.interrupts = false) ∧ s.client.calls = [c] ∧
      ∀ (i : Nat) (d : Client.Call), s.client.calls[i]? = some d →
        (Setup.connected .default failServer "client" "server").Admits (d.request i) := by
  obtain ⟨⟨past, s⟩, hreplay, hvalues⟩ := Option.map_eq_some_iff.mp hruns
  simp only [Prod.mk.injEq, List.all_eq_true, Bool.not_eq_true'] at hvalues
  obtain ⟨hinterrupts, hcalls⟩ := hvalues
  refine ⟨past, s, Run.of_replay hreplay, hinterrupts, hcalls, ?_⟩
  intro i d hd
  rw [hcalls] at hd
  match i, hd with
  | 0, hd =>
    cases hd
    exact hadmits

theorem seenAs_boom : (Utf8.encode "boom").length < 2 ^ 64 ∧
    failServer.config.permits? = some 256 ∧
    (SeenAs .default failServer "client" "server" 256 "Lab.Fail" (Payload.encodeText "boom")
        (ServiceError.mk "boom").seen ∧
      ("boom" ≠ "" → ∀ (β : Type) [Payload β],
        readReply β (ServiceError.mk "boom").seen = .error (.application "boom"))) ∧
    ∃ past s, Run (step (.connected .default failServer "client" "server")) (start 256) past s ∧
      (∀ m ∈ past, m.label.interrupts = false) ∧
      s.client.calls.map Client.Call.result? = [some (.error (.application "boom"))] := by
  have hlength : (Utf8.encode "boom").length < 2 ^ 64 := by decide +kernel
  have hruns : (replay (step (.connected .default failServer "client" "server")) (start 256)
      (failLabels "boom" 66 49)).map
        (fun r => (r.1.all fun m => !m.label.interrupts, r.2.client.calls))
      = some (true, [⟨"Lab.Fail", Payload.encodeText "boom", false, some 0,
        .finished (.error (.application "boom")), some (.error (.application "boom"))⟩]) := by
    decide +kernel
  obtain ⟨past, s, hrun, hinterrupts, hcalls, _⟩ := run_of_labels hruns
    ⟨carries_of_length (n := 62) (by decide +kernel) (by decide) (by decide),
      carries_of_length (n := 45) (by decide +kernel) (by decide) (by decide)⟩
  refine ⟨hlength, rfl, seenAs_of_fails (fails_of_text hlength) rfl, past, s, hrun, hinterrupts, ?_⟩
  rw [hcalls]
  rfl

/-- **A failure without a text is not seen.**  The handler fails and its run is reported as a
failure, but its caller gets a success, in place as well as over a connection on which everything
goes well. -/
theorem exists_unseen : failServer.registry.Fails "Lab.Fail" (Payload.encodeText "") ⟨""⟩ ∧
    failServer.registry.callRaw "Lab.Fail" (Payload.encodeText "") = some (.ok []) ∧
    call failServer.registry.callRaw "Lab.Fail" "" Unit = some (.ok ()) ∧
    ∃ past s, Run (step (.connected .default failServer "client" "server")) (start 256) past s ∧
      (∀ m ∈ past, m.label.interrupts = false) ∧
      (∀ (i : Nat) (c : Client.Call), s.client.calls[i]? = some c →
        (Setup.connected .default failServer "client" "server").Admits (c.request i)) ∧
      s.client.calls.map (fun c => (c.method, c.payload, c.result?))
        = [("Lab.Fail", Payload.encodeText "", some (.ok []))] := by
  have hlength : (Utf8.encode "").length < 2 ^ 64 := by decide +kernel
  have hfails := fails_of_text hlength
  have hruns : (replay (step (.connected .default failServer "client" "server")) (start 256)
      (failLabels "" 62 45)).map (fun r => (r.1.all fun m => !m.label.interrupts, r.2.client.calls))
      = some (true, [⟨"Lab.Fail", Payload.encodeText "", false, some 0, .finished (.ok []),
        some (.ok [])⟩]) := by decide +kernel
  obtain ⟨past, s, hrun, hinterrupts, hcalls, hadmits⟩ := run_of_labels hruns
    ⟨carries_of_length (n := 58) (by decide +kernel) (by decide) (by decide),
      carries_of_length (n := 41) (by decide +kernel) (by decide) (by decide)⟩
  refine ⟨hfails, hfails.callRaw, hfails.call rfl Unit, past, s, hrun, hinterrupts, hadmits, ?_⟩
  rw [hcalls]
  rfl

end RemoteCall.Conversation
