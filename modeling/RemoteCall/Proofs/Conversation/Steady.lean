import RemoteCall.Proofs.Conversation.Moves
import RemoteCall.Proofs.Conversation.Underway

/-!
# Conversations that nobody cuts short

As long as no call is given up, the client is not closed and the server does not shut down, and all
calls can travel, both sides do their daily work (`steady_of_run`).  That calls can travel is asked of
the calls made so far; as calls keep their requests, it then was so all the time.
-/

namespace RemoteCall.Conversation

open Connection (Request)

/-- Whether a step cuts the conversation short: somebody gives up a call, closes the client or lets
go of it, or the server shuts down. -/
def Label.interrupts : Label → Bool
  | .client (.abandon _) => true
  | .client .close => true
  | .client .release => true
  | .client .drop => true
  | .server .shutdown => true
  | _ => false

/-- Both sides do their daily work, and between them nothing gets lost. -/
structure Steady (setup : Setup) (permits : Nat) (s : State) : Prop where
  calls : Client.OnCourse setup.result s.client
  client : Client.Lasting s.client
  server : Connection.Lasting s.server
  sound : Connection.Sound setup.server permits s.server
  asking : s.requests.ending = false
  answering : s.responses.ending = false
  underway : ∃ ahead flight, Underway setup s ahead flight

variable {setup : Setup} {s s' : State} {permits : Nat} {label : Label} {shown : List Event}

theorem steady_start (setup : Setup) (permits : Nat) : Steady setup permits (start permits) where
  calls := Client.onCourse_start _
  client := Client.lasting_start
  server := Connection.lasting_start permits
  sound := Connection.sound_start setup.server permits
  asking := rfl
  answering := rfl
  underway := ⟨[], [], underway_start setup permits⟩

/-! ## Calls keep their requests -/

/-- Calls are still there, with their requests. -/
structure KeepsCalls (k k' : Client.State) : Prop where
  length_le : k.calls.length ≤ k'.calls.length
  request : ∀ {i : Nat} {c : Client.Call}, k.calls[i]? = some c →
    ∃ c', k'.calls[i]? = some c' ∧ c'.request i = c.request i

theorem KeepsCalls.refl (k : Client.State) : KeepsCalls k k :=
  ⟨Nat.le_refl _, fun hi => ⟨_, hi, rfl⟩⟩

theorem keepsCalls_of_modify {k k' : Client.State} {i : Nat} {f : Client.Call → Client.Call}
    (hcalls : k'.calls = k.calls.modify i f)
    (hf : ∀ c, (f c).method = c.method ∧ (f c).payload = c.payload) : KeepsCalls k k' := by
  refine ⟨Nat.le_of_eq (by rw [hcalls, List.length_modify]), ?_⟩
  intro j c hj
  refine ⟨if i = j then f c else c, ?_, ?_⟩
  · rw [hcalls, List.getElem?_modify, hj]
    split <;> rfl
  · split
    · rw [Client.Call.request, Client.Call.request, (hf c).1, (hf c).2]
    · rfl

theorem keepsCalls_of_append {k k' : Client.State} {d : Client.Call}
    (hcalls : k'.calls = k.calls ++ [d]) : KeepsCalls k k' := by
  refine ⟨by simp [hcalls], ?_⟩
  intro i c hi
  refine ⟨c, ?_, rfl⟩
  rw [hcalls, List.getElem?_append_left (List.getElem?_eq_some_iff.mp hi).1, hi]

theorem keepsCalls_of_change {k k' : Client.State} {act : Option Client.Act}
    {taken : Option Envelope} (hc : Client.Change k act taken k') : KeepsCalls k k' := by
  have hsame : k'.calls = k.calls → KeepsCalls k k' := by
    intro hcalls
    exact keepsCalls_of_modify (i := 0) (f := id) (by rw [hcalls, List.modify_id])
      fun _ => ⟨rfl, rfl⟩
  cases hc with
  | idle _ _ hcalls _ => exact hsame hcalls
  | began _ _ _ _ _ hcalls _ => exact keepsCalls_of_append hcalls
  | refused _ _ _ _ hcalls _ => exact keepsCalls_of_append hcalls
  | moved i _ _ _ _ _ _ hcalls _ => exact keepsCalls_of_modify hcalls fun _ => ⟨rfl, rfl⟩
  | collected i _ _ _ _ _ _ hcalls _ => exact keepsCalls_of_modify hcalls fun _ => ⟨rfl, rfl⟩
  | left i _ _ _ _ _ _ _ hcalls _ => exact keepsCalls_of_modify hcalls fun _ => ⟨rfl, rfl⟩
  | answered _ _ _ _ hcalls _ => exact hsame hcalls
  | oversized _ _ _ _ _ hcalls _ => exact hsame hcalls
  | shut _ _ _ _ hcalls _ => exact hsame hcalls
  | performed act _ _ hcalls =>
    cases act with
    | announce event => exact hsame hcalls
    | settle i outcome =>
      refine keepsCalls_of_modify hcalls fun c => ?_
      split
      · exact ⟨rfl, rfl⟩
      · exact ⟨rfl, rfl⟩

/-- Whatever happens, calls keep their requests. -/
theorem keepsCalls_of_step (hregular : s.client.Regular)
    (hstep : step setup s label = some (s', shown)) :
    s'.client.Regular ∧ KeepsCalls s.client s'.client := by
  cases move_of_step hstep with
  | client _ hk =>
    obtain ⟨hc, hregular'⟩ := Client.change_of_step hregular hk
    exact ⟨hregular', keepsCalls_of_change hc⟩
  | server _ _ => exact ⟨hregular, .refl _⟩
  | carryRequests n _ => exact ⟨hregular, .refl _⟩
  | endRequests _ => exact ⟨hregular, .refl _⟩
  | carryResponses n _ =>
    exact ⟨⟨hregular.shut, hregular.focused⟩, Nat.le_refl _, fun hi => ⟨_, hi, rfl⟩⟩
  | endResponses _ =>
    exact ⟨⟨hregular.shut, hregular.focused⟩, Nat.le_refl _, fun hi => ⟨_, hi, rfl⟩⟩

theorem Fits.before (h : Fits setup s') (hkeeps : KeepsCalls s.client s'.client) :
    Fits setup s := by
  refine ⟨Nat.le_trans hkeeps.length_le h.few, ?_⟩
  intro i c hi
  obtain ⟨c', hi', hrequest⟩ := hkeeps.request hi
  exact hrequest ▸ h.admits hi'

/-! ## Steps -/

theorem Steady.serverIsDeaf (h : Steady setup permits s) : s.serverIsDeaf = false := by
  have hopen := h.server.phase
  rw [State.serverIsDeaf, Connection.State.hasEnded]
  generalize s.server.phase = phase at hopen ⊢
  cases phase with
  | ended failure => cases hopen
  | _ => rfl

/-- Where nobody cuts the conversation short, a side only does its daily work. -/
theorem Steady.isRoutine_client (h : Steady setup permits s) {l : Client.Label}
    (hl : (Label.client l).interrupts = false) (hallowed : s.allowsClient l = true) :
    l.isRoutine = true := by
  cases l with
  | failWrite cause =>
    rw [State.allowsClient, h.serverIsDeaf] at hallowed
    cases hallowed
  | abandon i => cases hl
  | close => cases hl
  | release => cases hl
  | drop => cases hl
  | arrive bytes => cases hallowed
  | endInput => cases hallowed
  | failReceive cause => cases hallowed
  | _ => rfl

theorem Steady.isRoutine_server (h : Steady setup permits s) {l : Connection.Label}
    (hl : (Label.server l).interrupts = false) (hallowed : s.allowsServer l = true) :
    l.isRoutine = true := by
  cases l with
  | failWrite cause =>
    rw [State.allowsServer, State.clientIsDeaf, h.client.ended] at hallowed
    cases hallowed
  | shutdown => cases hl
  | arrive bytes => cases hallowed
  | endInput => cases hallowed
  | failRead cause => cases hallowed
  | _ => rfl

/-- The pipe to the server moves bytes along. -/
theorem Steady.carryRequests (h : Steady setup permits s) (n : Nat) : Steady setup permits { s with
    server := { s.server with inbox := s.server.inbox ++ s.requests.held.take n }
    requests := { s.requests with held := s.requests.held.drop n } } := by
  obtain ⟨ahead, flight, hway⟩ := h.underway
  obtain ⟨⟨r, hbooks⟩, hphased⟩ := h.sound
  have hlasting : Connection.Lasting
      { s.server with inbox := s.server.inbox ++ s.requests.held.take n } :=
    ⟨h.server.phase, h.server.inputEnded, h.server.shutdown, h.server.writing⟩
  have hsound : Connection.Sound setup.server permits
      { s.server with inbox := s.server.inbox ++ s.requests.held.take n } :=
    ⟨⟨r, hbooks.kept, hbooks.writing, hbooks.output⟩, hphased.holds, hphased.busy,
      hphased.drained, hphased.failed, hphased.permits⟩
  refine ⟨h.calls, h.client, hlasting, hsound, h.asking, h.answering, ahead, flight, ?_,
    hway.responses, hway.nodup, hway.mem, hway.read⟩
  show s.server.inbox ++ s.requests.held.take n ++ (s.requests.held.drop n ++ _) = _
  rw [List.append_assoc, ← List.append_assoc (s.requests.held.take n), List.take_append_drop]
  exact hway.requests

/-- The pipe to the client moves bytes along. -/
theorem Steady.carryResponses (h : Steady setup permits s) (n : Nat) : Steady setup permits { s with
    client := { s.client with inbox := s.client.inbox ++ s.responses.held.take n }
    responses := { s.responses with held := s.responses.held.drop n } } := by
  obtain ⟨ahead, flight, hway⟩ := h.underway
  have hcalls : Client.OnCourse setup.result
      { s.client with inbox := s.client.inbox ++ s.responses.held.take n } :=
    ⟨h.calls.next, h.calls.entries, h.calls.seq, h.calls.position, h.calls.delivers⟩
  have hlasting : Client.Lasting
      { s.client with inbox := s.client.inbox ++ s.responses.held.take n } :=
    ⟨h.client.shut, h.client.ended, h.client.abort, h.client.writer, h.client.isOpen,
      h.client.items, h.client.closers, h.client.dropped, h.client.inputEnded⟩
  refine ⟨hcalls, hlasting, h.server, h.sound, h.asking, h.answering, ahead, flight,
    hway.requests, ?_, hway.nodup, hway.mem, hway.read⟩
  show s.client.inbox ++ s.responses.held.take n ++ (s.responses.held.drop n ++ _) = _
  rw [List.append_assoc, ← List.append_assoc (s.responses.held.take n), List.take_append_drop]
  exact hway.responses

/-- **A conversation that nobody cuts short goes on.** -/
theorem steady_step (hlimits : setup.IsClamped) (hfits : Fits setup s)
    (h : Steady setup permits s) (hl : label.interrupts = false)
    (hstep : step setup s label = some (s', shown)) : Steady setup permits s' := by
  obtain ⟨ahead, flight, hway⟩ := h.underway
  cases move_of_step hstep with
  | client hallowed hk =>
    obtain ⟨hcalls, hlasting, hadvance, hend⟩ := Client.goes_of_step h.calls h.client
      (hway.smooth_client hlimits hfits) (h.isRoutine_client hl hallowed) hk
    exact ⟨hcalls, hlasting, h.server, h.sound, by simp [h.asking, hend], h.answering,
      hway.advance_client hlimits hfits hadvance rfl rfl rfl⟩
  | server hallowed hv =>
    obtain ⟨hlasting, hsound, hadvance, hend⟩ := Connection.goes_of_step h.server h.sound
      (hway.smooth_server hlimits hfits) (h.isRoutine_server hl hallowed) hv
    exact ⟨h.calls, h.client, hlasting, hsound, h.asking, by simp [h.answering, hend],
      hway.advance_server hlimits hfits hadvance rfl rfl rfl⟩
  | carryRequests n _ => exact h.carryRequests n
  | endRequests hending =>
    rw [h.asking] at hending
    cases hending
  | carryResponses n _ => exact h.carryResponses n
  | endResponses hending =>
    rw [h.answering] at hending
    cases hending

theorem regular_of_run {past : List (Moment State Label Event)}
    (hrun : Run (step setup) (start permits) past s) : s.client.Regular := by
  induction hrun with
  | start => exact Client.regular_start
  | snoc _ hstep ih => exact (keepsCalls_of_step ih hstep).1

/-- **In a run that nobody cuts short, both sides do their daily work.** -/
theorem steady_of_run {past : List (Moment State Label Event)} (hlimits : setup.IsClamped)
    (hrun : Run (step setup) (start permits) past s)
    (hl : ∀ m ∈ past, m.label.interrupts = false) (hfits : Fits setup s) :
    Steady setup permits s := by
  induction hrun with
  | start => exact steady_start setup permits
  | @snoc past s s' label shown hrun hstep ih =>
    have hlast : label.interrupts = false :=
      hl ⟨s, label, s', shown⟩ (List.mem_append_right _ (List.mem_singleton_self _))
    have hearlier : ∀ m ∈ past, m.label.interrupts = false :=
      fun m hm => hl m (List.mem_append_left _ hm)
    -- calls keep their requests, so what fits in the end has fitted before
    have hbefore := hfits.before (keepsCalls_of_step (regular_of_run hrun) hstep).2
    exact steady_step hlimits hbefore (ih hearlier hbefore) hlast hstep

end RemoteCall.Conversation
