import RemoteCall.Proofs.Conversation.Steady
import RemoteCall.Proofs.Server.Limit
import RemoteCall.Proofs.Service.Registered

/-!
# A call over a connection is a call in place

Callers need not know where a method is: over a connection a call comes to just what it would come to
in the same process, be it a reply, a method that does not exist, arguments that cannot be read, or a
handler that fails (`agrees_of_run`).  This holds for any number of calls under every order in which
the parties take their steps, and no order leaves a call without its outcome.

It is asked that methods come back, that every request and every reply has a frame within the limits
of both sides, that no more calls are made than there are numbers, and that nobody cuts the
conversation short.
-/

namespace RemoteCall

/-- What a call has come to, as its caller sees it. -/
def Client.Call.result? (c : Client.Call) : Option Client.Outcome :=
  match c.stage with
  | .finished outcome => some outcome
  | .failed cause => some (.error cause)
  | _ => none

/-- A call on its course comes to its answer and to nothing else. -/
theorem Client.Position.eq_of_result {answer : Connection.Request → Client.Outcome}
    {table : Client.Pending} {todo : List Client.Act} {i : Nat} {c : Client.Call}
    {outcome : Client.Outcome} (h : Client.Position answer table todo i c)
    (hresult : c.result? = some outcome) : outcome = answer (c.request i) := by
  rw [Client.Call.result?] at hresult
  cases h with
  | registered hstage _ _ =>
    rw [hstage] at hresult
    cases hresult
  | queueing hstage _ _ =>
    rw [hstage] at hresult
    cases hresult
  | waiting hstage _ _ =>
    rw [hstage] at hresult
    cases hresult
  | owed hstage _ _ _ =>
    rw [hstage] at hresult
    cases hresult
  | settled hstage _ _ =>
    rw [hstage] at hresult
    cases hresult
  | finished hstage _ =>
    rw [hstage] at hresult
    exact (Option.some.inj hresult).symm

namespace Conversation

open Connection (Request)

/-- A client and a server that are connected. -/
def Setup.connected (client : ClientConfig) (server : Serving.Setup) (near far : String) :
    Setup where
  client := ⟨far, Frame.clampLimit client.frameLimit⟩
  server := server.connection near

theorem isClamped_connected (client : ClientConfig) (server : Serving.Setup) (near far : String) :
    (Setup.connected client server near far).IsClamped :=
  ⟨Nat.min_le_right _ _, Nat.min_le_right _ _⟩

/-- Whether a step begins a new call. -/
def Label.begins : Label → Bool
  | .client label => label.begins
  | _ => false

/-- No party can take a step, unless somebody makes a new call or cuts the conversation short. -/
def State.IsStuck (setup : Setup) (s : State) : Prop :=
  ∀ label : Label, label.interrupts = false → label.begins = false → step setup s label = none

variable {setup : Setup} {s : State} {permits : Nat}

/-! ## When nothing can be done -/

theorem State.IsStuck.client (hstuck : s.IsStuck setup) (h : Steady setup permits s) :
    s.client.IsStuck setup.client := by
  intro l hl hbegins
  have hinterrupts : (Label.client l).interrupts = false := by
    cases l <;> first | rfl | cases hl
  -- only writing depends on the other side, and that side still reads
  have hallowed : s.allowsClient l = true := by
    cases l with
    | write n =>
      rw [State.allowsClient, h.serverIsDeaf]
      rfl
    | _ => first | rfl | cases hl
  have hnone := hstuck (.client l) hinterrupts hbegins
  rw [step, if_pos hallowed] at hnone
  split at hnone
  · cases hnone
  · assumption

theorem State.IsStuck.server (hstuck : s.IsStuck setup) (h : Steady setup permits s) :
    s.server.IsStuck setup.server := by
  intro l hl
  have hinterrupts : (Label.server l).interrupts = false := by
    cases l <;> first | rfl | cases hl
  have hallowed : s.allowsServer l = true := by
    cases l with
    | write n =>
      rw [State.allowsServer, State.clientIsDeaf, h.client.ended]
      rfl
    | _ => first | rfl | cases hl
  have hnone := hstuck (.server l) hinterrupts rfl
  rw [step, if_pos hallowed] at hnone
  split at hnone
  · cases hnone
  · assumption

/-- Where nothing can be done, all bytes have arrived. -/
theorem State.IsStuck.held (hstuck : s.IsStuck setup) (h : Steady setup permits s) :
    s.requests.held = [] ∧ s.responses.held = [] := by
  constructor
  · cases hheld : s.requests.held with
    | nil => rfl
    | cons byte rest =>
      have hnone := hstuck (.carryRequests 1) rfl rfl
      simp only [step, Connection.step, h.server.inputEnded, Bool.false_eq_true, if_false,
        hheld] at hnone
      cases hnone
  · cases hheld : s.responses.held with
    | nil => rfl
    | cons byte rest =>
      have hnone := hstuck (.carryResponses 1) rfl rfl
      simp only [step, Client.step, h.client.inputEnded, Bool.false_eq_true, if_false,
        hheld] at hnone
      cases hnone

/-- **When nothing can be done any more, every call has its answer.** -/
theorem finished_of_stuck (hlimits : setup.IsClamped) (hfits : Fits setup s)
    (h : Steady setup permits s) (hpermits : 1 ≤ permits) (hstuck : s.IsStuck setup) {i : Nat}
    {c : Client.Call} (hi : s.client.calls[i]? = some c) :
    c.stage = .finished (setup.result (c.request i)) := by
  obtain ⟨ahead, flight, hway⟩ := h.underway
  obtain ⟨hasked, hanswered⟩ := hstuck.held h
  obtain ⟨hout, hclient, hcalls⟩ := Client.calls_of_stuck h.calls h.client
    (hway.smooth_client hlimits hfits) (hstuck.client h)
  obtain ⟨hunwritten, hunbegun, hserver⟩ := Connection.rest_of_stuck h.server h.sound
    (hway.smooth_server hlimits hfits) hpermits (hstuck.server h)
  rcases hcalls hi with hfinished | ⟨hwaiting, hexpects⟩
  · exact hfinished
  · -- a request that is expected back would have to be somewhere, but there is nothing anywhere
    obtain ⟨hahead, hflight⟩ := hway.nil_of_short hlimits hfits hasked hanswered hout hunwritten
      hclient hserver
    have hmem := (hway.mem (c.request i)).mpr
      ⟨⟨i, c, hi, by rw [hwaiting]; rfl, rfl⟩, by rwa [Client.toNat_seq hfits.few hi]⟩
    rw [hahead, hflight, hunbegun] at hmem
    cases hmem

/-- The answer to a call is what a call in place comes to. -/
theorem callRaw_eq (hregistry : setup.server.registry.Registered Method.Returns)
    (r : Request) : setup.server.registry.callRaw r.method r.payload = some (setup.result r) := by
  obtain ⟨events, reply, hdispatch, hcall⟩ := Registry.callRaw_eq_some hregistry r.method r.payload
  rw [hcall, Setup.result, Connection.Setup.answer, hdispatch]

/-- **A call over a connection comes to what a call in place comes to.**  This is so for every
registry of methods that come back, for any calls that can travel and under every order of the
parties' steps; and when no party can take a step any more, every call is over. -/
theorem agrees_of_run {client : ClientConfig} {server : Serving.Setup} {near far : String}
    {past : List (Moment State Label Event)}
    (hregistry : server.registry.Registered Method.Returns)
    (hpermits : server.config.permits? = some permits)
    (h : Run (step (.connected client server near far)) (start permits) past s)
    (hl : ∀ m ∈ past, m.label.interrupts = false)
    (hfew : s.client.calls.length ≤ 2 ^ 64)
    (hfits : ∀ (i : Nat) (c : Client.Call), s.client.calls[i]? = some c →
      (Setup.connected client server near far).Admits (c.request i)) :
    (∀ (i : Nat) (c : Client.Call) (outcome : Client.Outcome), s.client.calls[i]? = some c →
      c.result? = some outcome → server.registry.callRaw c.method c.payload = some outcome) ∧
    (s.IsStuck (.connected client server near far) →
      ∀ (i : Nat) (c : Client.Call), s.client.calls[i]? = some c → c.result?.isSome = true) := by
  have hlimits := isClamped_connected client server near far
  have hfits' : Fits (.connected client server near far) s := ⟨hfew, fun hi => hfits _ _ hi⟩
  have hsteady := steady_of_run hlimits h hl hfits'
  constructor
  · intro i c outcome hi hresult
    rw [(hsteady.calls.position hi).eq_of_result hresult]
    exact @callRaw_eq (.connected client server near far) hregistry (c.request i)
  · intro hstuck i c hi
    have hone := ServerConfig.one_le_permits hpermits
    rw [Client.Call.result?, finished_of_stuck hlimits hfits' hsteady hone hstuck hi]
    rfl

/-- A server with one method, which sends its payload back. -/
def echoServer : Serving.Setup where
  registry := ⟨[("A", [("B", ⟨fun _ payload => .replied [] (.ok payload), fun _ => none⟩)])]⟩
  config := .default

theorem registered_echoServer : echoServer.registry.Registered Method.Returns := by
  refine .register "A" [("B", ⟨fun _ payload => .replied [] (.ok payload), fun _ => none⟩)] .empty
    ?_ rfl
  intro entry hentry
  cases List.mem_singleton.mp hentry
  intro name payload
  simp

/-- Two calls at the same time, one of them for a service that does not exist.  Their frames overlap
in the pipes, and the call that was made last is answered first. -/
def crossedLabels : List Label :=
  [.client (.call "A.B" [1] false), .client (.call "X.Y" [] true), .client (.frame 1),
    .client (.frame 0), .client (.submit 1), .client .dequeue, .server .announce,
    .client (.write 20), .carryRequests 20, .client (.submit 0), .client (.write 28),
    .client .dequeue, .client (.write 50), .carryRequests 78, .server .read,
    .server (.takeWriter 0), .server (.write 72), .server .resume, .server .read, .server .acquire,
    .carryResponses 70, .server (.handle 1), .server (.takeWriter 1), .server (.write 47),
    .carryResponses 49, .client .receive, .client .readerAct, .client .receive, .client .readerAct,
    .client (.collect 0), .client (.collect 1), .server (.report 1 0)]

theorem carries_of_length {header : Header} {payload : Bytes} {n : Nat}
    (h : (Envelope.encode header payload).toOption.map List.length = some n)
    (hclient : n ≤ setup.client.frameLimit) (hserver : n ≤ setup.server.frameLimit) :
    setup.Carries header payload := by
  cases hencode : Envelope.encode header payload with
  | error cause =>
    rw [hencode] at h
    cases h
  | ok body =>
    rw [hencode] at h
    cases h
    exact ⟨body, hencode, hclient, hserver⟩

theorem agrees_of_crossed_run : ∃ past s,
    Run (step (.connected .default echoServer "client" "server")) (start 256) past s ∧
      (∀ m ∈ past, m.label.interrupts = false) ∧
      s.client.calls.map Client.Call.result?
        = [some (.ok [1]), some (.error (.dispatch "rpc: can't find service X.Y"))] ∧
      (∀ (i : Nat) (c : Client.Call) (outcome : Client.Outcome), s.client.calls[i]? = some c →
        c.result? = some outcome →
          echoServer.registry.callRaw c.method c.payload = some outcome) ∧
      (s.IsStuck (.connected .default echoServer "client" "server") →
        ∀ (i : Nat) (c : Client.Call), s.client.calls[i]? = some c → c.result?.isSome = true) := by
  have hruns : (replay (step (.connected .default echoServer "client" "server")) (start 256)
      crossedLabels).map (fun r => (r.1.all fun m => !m.label.interrupts, r.2.client.calls))
      = some (true, [⟨"A.B", [1], false, some 0, .finished (.ok [1]), some (.ok [1])⟩,
        ⟨"X.Y", [], true, some 1, .finished (.error (.dispatch "rpc: can't find service X.Y")),
          some (.error (.dispatch "rpc: can't find service X.Y"))⟩]) := by decide +kernel
  obtain ⟨⟨past, s⟩, hreplay, hvalues⟩ := Option.map_eq_some_iff.mp hruns
  simp only [Prod.mk.injEq, List.all_eq_true, Bool.not_eq_true'] at hvalues
  obtain ⟨hinterrupts, hcalls⟩ := hvalues
  have hrun := Run.of_replay hreplay
  have hadmits : ∀ (i : Nat) (c : Client.Call), s.client.calls[i]? = some c →
      (Setup.connected .default echoServer "client" "server").Admits (c.request i) := by
    intro i c hi
    rw [hcalls] at hi
    match i, hi with
    | 0, hi =>
      cases hi
      exact ⟨carries_of_length (n := 46) (by decide +kernel) (by decide) (by decide),
        carries_of_length (n := 43) (by decide +kernel) (by decide) (by decide)⟩
    | 1, hi =>
      cases hi
      exact ⟨carries_of_length (n := 44) (by decide +kernel) (by decide) (by decide),
        carries_of_length (n := 68) (by decide +kernel) (by decide) (by decide)⟩
  refine ⟨past, s, hrun, hinterrupts, ?_, agrees_of_run registered_echoServer rfl hrun hinterrupts ?_
    hadmits⟩
  · rw [hcalls]
    rfl
  · rw [hcalls]
    decide

end Conversation

end RemoteCall
