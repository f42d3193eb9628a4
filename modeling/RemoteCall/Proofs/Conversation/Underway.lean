import RemoteCall.Proofs.Conversation.ClientSide
import RemoteCall.Proofs.Conversation.ServerSide

/-!
# Where requests and responses are

A request that was handed over and whose response was not found yet is in one of three places: ahead
of the server, in the pipe or around it; with a task that has not begun to answer; or its response is
in flight, in the other pipe or around it.  `Underway` says so.  What is on either side of a pipe and
in the pipe is one stream of frames, whatever pieces it arrives in.

So the client never meets a response that nobody expects (`smooth_client`), and the server never
meets a request that was not sent (`smooth_server`).  A step of either side moves one request from
one place to the next, or moves bytes along (`advance_client`, `advance_server`).
-/

namespace RemoteCall.Conversation

open Connection (Request)

/-! ## The invariant -/

/-- What the client should make of the answer to a request. -/
def Setup.result (setup : Setup) (r : Request) : Client.Outcome :=
  (setup.server.answer r).result

/-- The requests that lead to a response still to be found: ahead of the server, not answered yet, or
with a response in flight. -/
structure Underway (setup : Setup) (s : State) (ahead flight : List Request) : Prop where
  requests : s.server.inbox ++ (s.requests.held ++ s.client.outgoing)
    = Frame.stream (ahead.map Request.body)
  responses : s.client.inbox ++ (s.responses.held ++ s.server.unwritten)
    = Frame.stream (flight.map setup.server.response)
  nodup : (ahead ++ (s.server.unbegun ++ flight)).Nodup
  mem : ∀ r, r ∈ ahead ++ (s.server.unbegun ++ flight) ↔
    s.client.HasSent r ∧ s.client.pending.Expects r.seq.toNat
  read : ∀ r ∈ s.server.requests, s.client.HasSent r

/-- All calls can travel, and each has a number of its own. -/
structure Fits (setup : Setup) (s : State) : Prop where
  few : s.client.calls.length ≤ 2 ^ 64
  admits : ∀ {i : Nat} {c : Client.Call}, s.client.calls[i]? = some c →
    setup.Admits (c.request i)

variable {setup : Setup} {s s' : State} {ahead flight : List Request}

theorem underway_start (setup : Setup) (permits : Nat) : Underway setup (start permits) [] [] where
  requests := rfl
  responses := rfl
  nodup := List.nodup_nil
  mem r := by
    refine ⟨fun hr => (by cases hr), ?_⟩
    rintro ⟨⟨_, _, hi, _⟩, _⟩
    cases hi
  read := fun _ hr => by cases hr

/-! ## What the sides meet -/

theorem Fits.of_hasSent (hfits : Fits setup s) {r : Request} (hr : s.client.HasSent r) :
    setup.Admits r := by
  obtain ⟨i, c, hi, _, rfl⟩ := hr
  exact hfits.admits hi

theorem scan_nil (limit : Nat) : Frame.scan limit [] = .short := rfl

/-- Somebody who reads a stream finds its first frame or nothing, and knows what that frame is. -/
theorem scan_of_stream {limit : Nat} {got more : Bytes} {requests : List Request}
    {body : Request → Bytes} (hlimit : limit ≤ Frame.longest)
    (hlength : ∀ r ∈ requests, (body r).length ≤ limit)
    (hstream : got ++ more = Frame.stream (requests.map body)) :
    Frame.scan limit got = .short ∨ ∃ r rest behind, requests = r :: rest ∧
      Frame.scan limit got = .frame (body r) behind ∧
      behind ++ more = Frame.stream (rest.map body) := by
  cases requests with
  | nil =>
    have hnil : got = [] := (List.append_eq_nil_iff.mp hstream).1
    rw [hnil]
    exact Or.inl (scan_nil limit)
  | cons r rest =>
    rw [List.map_cons, Frame.stream_cons] at hstream
    rcases Frame.scan_beginning (hlength r List.mem_cons_self) hlimit hstream with
      ⟨hshort, _⟩ | ⟨behind, hscan, hbehind⟩
    · exact Or.inl hshort
    · exact Or.inr ⟨r, rest, behind, rfl, hscan, hbehind⟩

/-- Somebody who finds nothing in front of him, although all has arrived, has read it all. -/
theorem nil_of_scan_short {limit : Nat} {got : Bytes} {requests : List Request}
    {body : Request → Bytes} (hlimit : limit ≤ Frame.longest)
    (hlength : ∀ r ∈ requests, (body r).length ≤ limit)
    (hstream : got = Frame.stream (requests.map body))
    (hshort : Frame.scan limit got = .short) : requests = [] := by
  cases requests with
  | nil => rfl
  | cons r rest =>
    rw [hstream, List.map_cons, Frame.stream_cons,
      Frame.scan_encode_append (hlength r List.mem_cons_self) hlimit] at hshort
    cases hshort

theorem Underway.length_response (h : Underway setup s ahead flight) (hfits : Fits setup s) :
    ∀ r ∈ flight, (setup.server.response r).length ≤ setup.client.frameLimit := by
  intro r hr
  have hmem : r ∈ ahead ++ (s.server.unbegun ++ flight) := by simp [hr]
  exact (hfits.of_hasSent ((h.mem r).mp hmem).1).answered.length_le.1

theorem Underway.length_body (h : Underway setup s ahead flight) (hfits : Fits setup s) :
    ∀ r ∈ ahead, r.body.length ≤ setup.server.frameLimit := by
  intro r hr
  have hmem : r ∈ ahead ++ (s.server.unbegun ++ flight) := List.mem_append_left _ hr
  exact (hfits.of_hasSent ((h.mem r).mp hmem).1).asked.length_le.2

/-- What is left of a list without repetitions after one of its members. -/
theorem mem_tail_of_perm {α : Type} {l tail : List α} {a x : α} (hperm : l.Perm (a :: tail))
    (hnodup : l.Nodup) : x ∈ tail ↔ x ≠ a ∧ x ∈ l := by
  have hfresh := (List.nodup_cons.mp (hperm.nodup_iff.mp hnodup)).1
  rw [hperm.mem_iff, List.mem_cons]
  constructor
  · intro hmem
    exact ⟨fun heq => hfresh (heq ▸ hmem), Or.inr hmem⟩
  · rintro ⟨hne, heq | hmem⟩
    · exact absurd heq hne
    · exact hmem

section

variable (hlimits : setup.IsClamped) (hfits : Fits setup s) (h : Underway setup s ahead flight)

include hlimits hfits h

/-- What the client finds in front of it. -/
theorem Underway.scan_client : Frame.scan setup.client.frameLimit s.client.inbox = .short ∨
    ∃ r rest behind, flight = r :: rest ∧
      Frame.scan setup.client.frameLimit s.client.inbox
        = .frame (setup.server.response r) behind ∧
      behind ++ (s.responses.held ++ s.server.unwritten)
        = Frame.stream (rest.map setup.server.response) :=
  scan_of_stream hlimits.client (h.length_response hfits) h.responses

/-- What the server finds in front of it. -/
theorem Underway.scan_server : Frame.scan setup.server.frameLimit s.server.inbox = .short ∨
    ∃ r rest behind, ahead = r :: rest ∧
      Frame.scan setup.server.frameLimit s.server.inbox = .frame r.body behind ∧
      behind ++ (s.requests.held ++ s.client.outgoing) = Frame.stream (rest.map Request.body) :=
  scan_of_stream hlimits.server (h.length_body hfits) h.requests

theorem Underway.smooth_client : Client.Smooth setup.client setup.result s.client := by
  refine ⟨hfits.few, ?_, ?_⟩
  · intro i c hi
    have hasked := (hfits.admits hi).asked
    exact ⟨hasked.encode, hasked.length_le.1⟩
  · rcases h.scan_client hlimits hfits with hshort | ⟨r, rest, behind, rfl, hscan, _⟩
    · exact Or.inl hshort
    · have hmem : r ∈ ahead ++ (s.server.unbegun ++ r :: rest) := by simp
      obtain ⟨hsent, hexpects⟩ := (h.mem r).mp hmem
      obtain ⟨e, hdecode, hseq, hout⟩ := (hfits.of_hasSent hsent).decode_response hlimits
      exact Or.inr ⟨_, behind, e, r, hscan, hdecode, hsent, hexpects, hseq, hout⟩

theorem Underway.smooth_server : Connection.Smooth setup.server s.server := by
  refine ⟨fun r hr => (hfits.of_hasSent (h.read r hr)).outcome, ?_⟩
  rcases h.scan_server hlimits hfits with hshort | ⟨r, rest, behind, rfl, hscan, _⟩
  · exact Or.inl hshort
  · have hmem : r ∈ r :: rest ++ (s.server.unbegun ++ flight) := by simp
    obtain ⟨e, hdecode, _⟩ := (hfits.of_hasSent ((h.mem r).mp hmem).1).decode_body hlimits
    exact Or.inr ⟨_, behind, e, hscan, hdecode⟩

/-- Both pipes have been read empty. -/
theorem Underway.nil_of_short (hasked : s.requests.held = []) (hanswered : s.responses.held = [])
    (hout : s.client.outgoing = []) (hunwritten : s.server.unwritten = [])
    (hclient : Frame.scan setup.client.frameLimit s.client.inbox = .short)
    (hserver : Frame.scan setup.server.frameLimit s.server.inbox = .short) :
    ahead = [] ∧ flight = [] := by
  have hrequests := h.requests
  have hresponses := h.responses
  rw [hasked, hout, List.append_nil, List.append_nil] at hrequests
  rw [hanswered, hunwritten, List.append_nil, List.append_nil] at hresponses
  constructor
  · exact nil_of_scan_short hlimits.server (h.length_body hfits) hrequests hserver
  · exact nil_of_scan_short hlimits.client (h.length_response hfits) hresponses hclient

/-! ## Steps of the client -/

omit hlimits in
/-- The client moves bytes along. -/
theorem Underway.move_client {bytes : Bytes}
    (hsent : ∀ r, s'.client.HasSent r ↔ s.client.HasSent r)
    (hexpects : ∀ n < s.client.calls.length,
      s'.client.pending.Expects n ↔ s.client.pending.Expects n)
    (hinbox : s'.client.inbox = s.client.inbox)
    (hout : s.client.outgoing = bytes ++ s'.client.outgoing) (hserver : s'.server = s.server)
    (hrequests : s'.requests.held = s.requests.held ++ bytes)
    (hresponses : s'.responses.held = s.responses.held) : Underway setup s' ahead flight := by
  refine ⟨?_, ?_, ?_, ?_, ?_⟩
  · rw [hserver, hrequests, List.append_assoc, ← hout]
    exact h.requests
  · rw [hserver, hinbox, hresponses]
    exact h.responses
  · rw [hserver]
    exact h.nodup
  · intro r
    rw [hserver, h.mem r, hsent r]
    refine and_congr_right fun hr => ?_
    obtain ⟨i, c, hi, _, rfl⟩ := hr
    rw [Client.toNat_seq hfits.few hi]
    exact (hexpects i (List.getElem?_eq_some_iff.mp hi).1).symm
  · intro r hr
    rw [hserver] at hr
    exact (hsent r).mpr (h.read r hr)

omit hlimits hfits in
/-- The client hands over a request: it is the last one ahead of the server. -/
theorem Underway.submit {r : Request} (hnew : ¬ s.client.HasSent r)
    (hexpects : s.client.pending.Expects r.seq.toNat)
    (hsent : ∀ x, s'.client.HasSent x ↔ s.client.HasSent x ∨ x = r)
    (hpending : s'.client.pending = s.client.pending) (hinbox : s'.client.inbox = s.client.inbox)
    (hout : s'.client.outgoing = s.client.outgoing ++ Frame.encode r.body)
    (hserver : s'.server = s.server) (hrequests : s'.requests.held = s.requests.held)
    (hresponses : s'.responses.held = s.responses.held) :
    Underway setup s' (ahead ++ [r]) flight := by
  have hperm : (ahead ++ [r] ++ (s.server.unbegun ++ flight)).Perm
      (r :: (ahead ++ (s.server.unbegun ++ flight))) := by
    rw [List.append_assoc]
    exact List.perm_middle
  have hfresh : r ∉ ahead ++ (s.server.unbegun ++ flight) := by
    intro hr
    exact hnew ((h.mem r).mp hr).1
  refine ⟨?_, ?_, ?_, ?_, ?_⟩
  · rw [hserver, hrequests, hout, List.map_append, Frame.stream_append, ← h.requests,
      List.map_singleton, Frame.stream_cons, Frame.stream_nil, List.append_nil,
      List.append_assoc, List.append_assoc]
  · rw [hserver, hinbox, hresponses]
    exact h.responses
  · rw [hserver, hperm.nodup_iff]
    exact List.nodup_cons.mpr ⟨hfresh, h.nodup⟩
  · intro x
    rw [hserver, hperm.mem_iff, List.mem_cons, h.mem x, hsent x, hpending]
    constructor
    · rintro (rfl | ⟨hx, hexp⟩)
      · exact ⟨Or.inr rfl, hexpects⟩
      · exact ⟨Or.inl hx, hexp⟩
    · rintro ⟨hx | rfl, hexp⟩
      · exact Or.inr ⟨hx, hexp⟩
      · exact Or.inl rfl
  · intro x hx
    rw [hserver] at hx
    exact (hsent x).mpr (Or.inl (h.read x hx))

/-- The client finds a response: it is the first one in flight, and with it its request is done. -/
theorem Underway.receive {body : Bytes} {e : Envelope}
    (hscan : Frame.scan setup.client.frameLimit s.client.inbox = .frame body s'.client.inbox)
    (hdecode : Envelope.decode body = .ok e)
    (hsent : ∀ x, s'.client.HasSent x ↔ s.client.HasSent x)
    (hexpects : ∀ n, s'.client.pending.Expects n ↔
      s.client.pending.Expects n ∧ n ≠ e.header.seq.toNat)
    (hout : s'.client.outgoing = s.client.outgoing) (hserver : s'.server = s.server)
    (hrequests : s'.requests.held = s.requests.held)
    (hresponses : s'.responses.held = s.responses.held) :
    ∃ flight', Underway setup s' ahead flight' := by
  rcases h.scan_client hlimits hfits with hshort | ⟨r, rest, behind, rfl, hfound, hbehind⟩
  · rw [hshort] at hscan
    cases hscan
  · have hr : r ∈ ahead ++ (s.server.unbegun ++ r :: rest) := by simp
    have hperm : (ahead ++ (s.server.unbegun ++ r :: rest)).Perm
        (r :: (ahead ++ (s.server.unbegun ++ rest))) := by
      rw [← List.append_assoc, ← List.append_assoc]
      exact List.perm_middle
    have hnodup := List.nodup_cons.mp (hperm.nodup_iff.mp h.nodup)
    have hrsent := ((h.mem r).mp hr).1
    obtain ⟨e', hdecode', hseq, _⟩ := (hfits.of_hasSent hrsent).decode_response hlimits
    -- the frame that was taken is the first in flight
    rw [hfound] at hscan
    obtain ⟨rfl, hrest⟩ : setup.server.response r = body ∧ behind = s'.client.inbox := by
      simpa using hscan
    cases hdecode'.symm.trans hdecode
    refine ⟨rest, ?_, ?_, ?_, ?_, ?_⟩
    · rw [hserver, hrequests, hout]
      exact h.requests
    · rw [hserver, hresponses, ← hrest]
      exact hbehind
    · rw [hserver]
      exact hnodup.2
    · intro x
      rw [hserver, mem_tail_of_perm hperm h.nodup, h.mem x, hsent x, hexpects, hseq]
      constructor
      · rintro ⟨hne, hxsent, hexp⟩
        refine ⟨hxsent, hexp, ?_⟩
        intro heq
        -- no two requests that were sent have the same number
        exact hne (hxsent.inj hfits.few hrsent (UInt64.toNat_inj.mp heq))
      · rintro ⟨hxsent, hexp, hne⟩
        exact ⟨fun heq => hne (by rw [heq]), hxsent, hexp⟩
    · intro x hx
      rw [hserver] at hx
      exact (hsent x).mpr (h.read x hx)

/-- **What the client does** moves requests from place to place. -/
theorem Underway.advance_client {bytes : Bytes}
    (hadvance : Client.Advance setup.client s.client bytes s'.client)
    (hserver : s'.server = s.server) (hrequests : s'.requests.held = s.requests.held ++ bytes)
    (hresponses : s'.responses.held = s.responses.held) :
    ∃ ahead' flight', Underway setup s' ahead' flight' := by
  generalize hk : s'.client = k at hadvance
  cases hadvance with
  | idle hsent hexpects hinbox hout =>
    subst hk
    exact ⟨ahead, flight,
      h.move_client hfits hsent hexpects hinbox hout hserver hrequests hresponses⟩
  | submitted r hnew hexpects hsent hpending hinbox hout =>
    subst hk
    rw [List.append_nil] at hrequests
    exact ⟨ahead ++ [r], flight,
      h.submit hnew hexpects hsent hpending hinbox hout hserver hrequests hresponses⟩
  | received body e hscan hdecode hsent hexpects hout =>
    subst hk
    rw [List.append_nil] at hrequests
    exact ⟨ahead,
      h.receive hlimits hfits hscan hdecode hsent hexpects hout hserver hrequests hresponses⟩

/-! ## Steps of the server -/

omit hlimits hfits in
/-- The server moves bytes along. -/
theorem Underway.move_server {bytes : Bytes} (hread : s'.server.requests = s.server.requests)
    (hunbegun : s'.server.unbegun = s.server.unbegun) (hinbox : s'.server.inbox = s.server.inbox)
    (hout : s.server.unwritten = bytes ++ s'.server.unwritten) (hclient : s'.client = s.client)
    (hrequests : s'.requests.held = s.requests.held)
    (hresponses : s'.responses.held = s.responses.held ++ bytes) :
    Underway setup s' ahead flight := by
  refine ⟨?_, ?_, ?_, ?_, ?_⟩
  · rw [hclient, hrequests, hinbox]
    exact h.requests
  · rw [hclient, hresponses, List.append_assoc, ← hout]
    exact h.responses
  · rw [hunbegun]
    exact h.nodup
  · intro r
    rw [hunbegun, hclient]
    exact h.mem r
  · intro r hr
    rw [hread] at hr
    rw [hclient]
    exact h.read r hr

/-- The server reads a request: it is the first one ahead, and now the server owes its answer. -/
theorem Underway.take {body : Bytes} {e : Envelope}
    (hscan : Frame.scan setup.server.frameLimit s.server.inbox = .frame body s'.server.inbox)
    (hdecode : Envelope.decode body = .ok e)
    (hread : s'.server.requests
      = s.server.requests ++ [⟨e.header.method, e.header.seq, e.payload⟩])
    (hunbegun : s'.server.unbegun
      = s.server.unbegun ++ [⟨e.header.method, e.header.seq, e.payload⟩])
    (hout : s'.server.unwritten = s.server.unwritten) (hclient : s'.client = s.client)
    (hrequests : s'.requests.held = s.requests.held)
    (hresponses : s'.responses.held = s.responses.held) :
    ∃ ahead', Underway setup s' ahead' flight := by
  rcases h.scan_server hlimits hfits with hshort | ⟨r, rest, behind, rfl, hfound, hbehind⟩
  · rw [hshort] at hscan
    cases hscan
  · have hr : r ∈ r :: rest ++ (s.server.unbegun ++ flight) := by simp
    have hrsent := ((h.mem r).mp hr).1
    obtain ⟨e', hdecode', heq⟩ := (hfits.of_hasSent hrsent).decode_body hlimits
    -- the frame that was taken is the first one ahead
    rw [hfound] at hscan
    obtain ⟨rfl, hrest⟩ : r.body = body ∧ behind = s'.server.inbox := by simpa using hscan
    cases hdecode'.symm.trans hdecode
    rw [heq] at hread hunbegun
    have hperm : (rest ++ (s.server.unbegun ++ [r] ++ flight)).Perm
        (r :: rest ++ (s.server.unbegun ++ flight)) := by
      have hsplit : rest ++ (s.server.unbegun ++ [r] ++ flight)
          = rest ++ s.server.unbegun ++ r :: flight := by simp
      rw [hsplit, List.cons_append, ← List.append_assoc]
      exact List.perm_middle
    refine ⟨rest, ?_, ?_, ?_, ?_, ?_⟩
    · rw [hclient, hrequests, ← hrest]
      exact hbehind
    · rw [hclient, hresponses, hout]
      exact h.responses
    · rw [hunbegun, hperm.nodup_iff]
      exact h.nodup
    · intro x
      rw [hunbegun, hclient, hperm.mem_iff]
      exact h.mem x
    · intro x hx
      rw [hread] at hx
      rw [hclient]
      rcases List.mem_append.mp hx with hx | hx
      · exact h.read x hx
      · cases List.mem_singleton.mp hx
        exact hrsent

omit hlimits hfits in
/-- The server begins an answer: its response is the last one in flight. -/
theorem Underway.answer {r : Request} (hread : s'.server.requests = s.server.requests)
    (hunbegun : s.server.unbegun.Perm (r :: s'.server.unbegun))
    (hinbox : s'.server.inbox = s.server.inbox) (hnone : s.server.unwritten = [])
    (hframe : s'.server.unwritten = Frame.encode (setup.server.response r))
    (hclient : s'.client = s.client) (hrequests : s'.requests.held = s.requests.held)
    (hresponses : s'.responses.held = s.responses.held) :
    Underway setup s' ahead (flight ++ [r]) := by
  have hperm : (ahead ++ (s'.server.unbegun ++ (flight ++ [r]))).Perm
      (ahead ++ (s.server.unbegun ++ flight)) := by
    refine List.Perm.append_left _ ?_
    rw [← List.append_assoc]
    refine List.perm_append_comm.trans ?_
    exact (hunbegun.append_right flight).symm
  refine ⟨?_, ?_, ?_, ?_, ?_⟩
  · rw [hclient, hrequests, hinbox]
    exact h.requests
  · have hbefore := h.responses
    rw [hnone, List.append_nil] at hbefore
    rw [hclient, hresponses, hframe, List.map_append, Frame.stream_append, ← hbefore,
      List.map_singleton, Frame.stream_cons, Frame.stream_nil, List.append_nil, List.append_assoc]
  · rw [hperm.nodup_iff]
    exact h.nodup
  · intro x
    rw [hclient, hperm.mem_iff]
    exact h.mem x
  · intro x hx
    rw [hread] at hx
    rw [hclient]
    exact h.read x hx

/-- **What the server does** moves requests from place to place. -/
theorem Underway.advance_server {bytes : Bytes}
    (hadvance : Connection.Advance setup.server s.server bytes s'.server)
    (hclient : s'.client = s.client) (hrequests : s'.requests.held = s.requests.held)
    (hresponses : s'.responses.held = s.responses.held ++ bytes) :
    ∃ ahead' flight', Underway setup s' ahead' flight' := by
  generalize hv : s'.server = v at hadvance
  cases hadvance with
  | idle hread hunbegun hinbox hout =>
    subst hv
    exact ⟨ahead, flight, h.move_server hread hunbegun hinbox hout hclient hrequests hresponses⟩
  | took body e hscan hdecode hread hunbegun hout =>
    subst hv
    rw [List.append_nil] at hresponses
    obtain ⟨ahead', htaken⟩ :=
      h.take hlimits hfits hscan hdecode hread hunbegun hout hclient hrequests hresponses
    exact ⟨ahead', flight, htaken⟩
  | began r hread hunbegun hinbox hnone hframe =>
    subst hv
    rw [List.append_nil] at hresponses
    exact ⟨ahead, flight ++ [r],
      h.answer hread hunbegun hinbox hnone hframe hclient hrequests hresponses⟩

end

end RemoteCall.Conversation
