import RemoteCall.Proofs.Conversation.Asking
import RemoteCall.Proofs.Conversation.Hearing

/-!
# Where outcomes come from

Both sides may be closed, cut off or stopped at any point, calls may be given up, and frames may be
too large for the side that gets them.  All the same, a call comes to a failure of its own side or
to a response to its own request (`attributed_of_run`): no response is put together from pieces of
two frames, none is invented, and none is given to another call.

As long as the client reads, what is on either side of a pipe and in the pipe is one stream of
frames (`Flowing`).  In the one direction these are frames of requests of calls, for what the server
still reads; in the other, frames of responses to such requests.  What the client found in one of
them it owes to the call that asked (`Attributed`).
-/

namespace RemoteCall.Client

variable {s s' : State} {act : Option Act} {taken : Option Envelope} {i : Nat} {outcome : Outcome}

/-! ## What a call is told -/

/-- A call has this outcome, or some party is bound to give it to the call. -/
def State.Tells (s : State) (i : Nat) (outcome : Outcome) : Prop :=
  Act.settle i outcome ∈ s.todo ∨ ∃ c, s.calls[i]? = some c ∧
    (c.slot = some outcome ∨ c.stage = .finished outcome)

theorem tells_of_eq (hcalls : s'.calls = s.calls) (htodo : Act.settle i outcome ∈ s'.todo →
    Act.settle i outcome ∈ s.todo) (h : s'.Tells i outcome) : s.Tells i outcome := by
  rw [State.Tells, hcalls] at h
  exact h.imp_left htodo

theorem tells_of_append {d : Call} (hcalls : s'.calls = s.calls ++ [d]) (hslot : d.slot = none)
    (hstage : ∀ outcome, d.stage ≠ .finished outcome) (htodo : s'.todo = s.todo)
    (h : s'.Tells i outcome) : s.Tells i outcome := by
  rcases h with howed | ⟨c, hc, hhas⟩
  · exact Or.inl (htodo ▸ howed)
  · rw [hcalls] at hc
    rcases getElem?_append_singleton hc with hc | ⟨_, rfl⟩
    · exact Or.inr ⟨c, hc, hhas⟩
    · rcases hhas with hhas | hhas
      · rw [hslot] at hhas
        cases hhas
      · exact absurd hhas (hstage outcome)

/-- A caller is done only with what its slot shows. -/
theorem tells_of_stage {k : Nat} {c : Call} {stage : Stage} (hk : s.calls[k]? = some c)
    (hstage : ∀ outcome, stage = .finished outcome → c.slot = some outcome)
    (hcalls : s'.calls = s.calls.modify k fun c => { c with stage := stage })
    (htodo : s'.todo = s.todo) (h : s'.Tells i outcome) : s.Tells i outcome := by
  rcases h with howed | ⟨c', hc', hhas⟩
  · exact Or.inl (htodo ▸ howed)
  · rw [hcalls] at hc'
    obtain ⟨d, hd, rfl⟩ := getElem?_modify_eq_some hc'
    by_cases hki : k = i
    · subst hki
      cases hk.symm.trans hd
      rw [if_pos rfl] at hhas
      rcases hhas with hhas | hhas
      · exact Or.inr ⟨c, hk, Or.inl hhas⟩
      · exact Or.inr ⟨c, hk, Or.inl (hstage outcome hhas)⟩
    · rw [if_neg hki] at hhas
      exact Or.inr ⟨d, hd, hhas⟩

theorem tells_of_performed {act : Act} (hperm : s.todo.Perm (act :: s'.todo))
    (hcalls : s'.calls = (s.perform act).1.calls) (h : s'.Tells i outcome) :
    s.Tells i outcome := by
  have htodo : Act.settle i outcome ∈ s'.todo → Act.settle i outcome ∈ s.todo :=
    fun howed => hperm.mem_iff.mpr (List.mem_cons_of_mem _ howed)
  cases act with
  | announce event => exact tells_of_eq hcalls htodo h
  | settle k given =>
    rcases h with howed | ⟨c', hc', hhas⟩
    · exact Or.inl (htodo howed)
    · rw [hcalls] at hc'
      obtain ⟨c, hc, rfl⟩ := getElem?_settle hc'
      split at hhas
      · next hopen =>
        -- what is put into the slot was owed before
        rcases hhas with hhas | hhas
        · cases hhas
          rw [← hopen.1]
          exact Or.inl (hperm.mem_iff.mpr List.mem_cons_self)
        · exact Or.inr ⟨c, hc, Or.inr hhas⟩
      · exact Or.inr ⟨c, hc, hhas⟩

/-- **A call is told what it was told before, a failure of this side, or what stands in an envelope
that came under its number.** -/
theorem Change.tells (h : Change s act taken s') (htells : s'.Tells i outcome) :
    s.Tells i outcome ∨ isLocal outcome = true ∨ ∃ e entry, taken = some e ∧
      s.pending.find e.header.seq.toNat = some entry ∧ entry.call = i ∧
      outcome = State.outcomeOf e := by
  cases h with
  | idle _ _ hcalls htodo => exact Or.inl (tells_of_eq hcalls (fun howed => htodo ▸ howed) htells)
  | began method payload keepsClient _ _ hcalls htodo =>
    exact Or.inl (tells_of_append hcalls rfl (fun _ hne => by cases hne) htodo htells)
  | refused method payload keepsClient _ hcalls htodo =>
    exact Or.inl (tells_of_append hcalls rfl (fun _ hne => by cases hne) htodo htells)
  | moved k c stage hk _ hopen _ hcalls htodo =>
    refine Or.inl (tells_of_stage hk ?_ hcalls htodo htells)
    rintro outcome rfl
    cases hopen
  | collected k c given hk _ hslot _ hcalls htodo =>
    refine Or.inl (tells_of_stage hk ?_ hcalls htodo htells)
    rintro outcome heq
    cases heq
    exact hslot
  | left k c stage hk _ _ hfin _ hcalls htodo =>
    exact Or.inl (tells_of_stage hk (fun _ heq => absurd heq (hfin _)) hcalls htodo htells)
  | answered e entry hfind _ hcalls hperm =>
    by_cases hnew : Act.settle i outcome = .settle entry.call (State.outcomeOf e)
    · cases hnew
      exact Or.inr (Or.inr ⟨e, entry, rfl, hfind, rfl, rfl⟩)
    · refine Or.inl (tells_of_eq hcalls (fun howed => ?_) htells)
      exact (List.mem_cons.mp (hperm.mem_iff.mp howed)).resolve_left hnew
  | oversized seq entry cause _ _ hcalls hperm =>
    by_cases hnew : Act.settle i outcome = .settle entry.call (.error (.link cause))
    · cases hnew
      exact Or.inr (Or.inl rfl)
    · refine Or.inl (tells_of_eq hcalls (fun howed => ?_) htells)
      exact (List.mem_cons.mp (hperm.mem_iff.mp howed)).resolve_left hnew
  | shut events given hlocal _ hcalls hperm =>
    by_cases hnew : outcome = given
    · rw [hnew]
      exact Or.inr (Or.inl hlocal)
    · refine Or.inl (tells_of_eq hcalls (fun howed => ?_) htells)
      rcases List.mem_append.mp (hperm.mem_iff.mp howed) with hmem | hmem
      · rcases List.mem_append.mp hmem with hmem | hmem
        · obtain ⟨_, _, heq⟩ := List.mem_map.mp hmem
          cases heq
        · obtain ⟨_, _, heq⟩ := List.mem_map.mp hmem
          cases heq
          exact absurd rfl hnew
      · exact hmem
  | performed act hperm _ hcalls => exact Or.inl (tells_of_performed hperm hcalls htells)

end RemoteCall.Client

namespace RemoteCall.Conversation

open Connection (Request IsResponse)

variable {setup : Setup} {s s' : State} {permits : Nat}

/-! ## What the client was told -/

/-- The outcome is that of a response to the request of this call. -/
def Answers (server : Connection.Setup) (k : Client.State) (i : Nat) (outcome : Client.Outcome) :
    Prop :=
  ∃ c r e, k.calls[i]? = some c ∧ c.asked? = some r ∧ IsResponse server r e ∧
    outcome = Client.State.outcomeOf e

/-- The envelope is a response to a request of the client. -/
def Meets (server : Connection.Setup) (k : Client.State) (e : Envelope) : Prop :=
  ∃ r, k.Asks r ∧ e.header.seq = r.seq ∧ IsResponse server r e

/-- All that a client was told is its own failure, or a response to the request of the call that was
told. -/
structure Truthful (server : Connection.Setup) (k : Client.State) : Prop where
  regular : k.Regular
  numbered : Client.Numbered k
  next : k.pending.nextSeq ≤ k.calls.length
  asking : Client.Asking k
  told : ∀ {i : Nat} {outcome : Client.Outcome}, k.Tells i outcome →
    Client.isLocal outcome = true ∨ Answers server k i outcome

theorem truthful_start (server : Connection.Setup) : Truthful server Client.start where
  regular := Client.regular_start
  numbered := Client.numbered_start
  next := Nat.le_refl _
  asking := Client.asking_start
  told h := by
    rcases h with howed | ⟨_, hc, _⟩
    · cases howed
    · cases hc

section

variable {server : Connection.Setup} {client : Client.Setup} {k k' : Client.State}
  {label : Client.Label} {shown : List Client.Effect} {act : Option Client.Act}
  {taken : Option Envelope}

theorem Answers.after (hc : Client.Change k act taken k') {i : Nat} {outcome : Client.Outcome}
    (h : Answers server k i outcome) : Answers server k' i outcome := by
  obtain ⟨c, r, e, hi, hasked, hresponse, hout⟩ := h
  obtain ⟨c', hi', hasked'⟩ := hc.asked_after hi
  exact ⟨c', r, e, hi', hasked'.trans hasked, hresponse, hout⟩

/-- A call that finds its number in a response has asked for it. -/
theorem answers_of_find (h : Truthful server k) (hfew : k.calls.length ≤ 2 ^ 64) {e : Envelope}
    {entry : Client.Entry} (hfind : k.pending.find e.header.seq.toNat = some entry)
    (hmeets : Meets server k e) : Answers server k entry.call (Client.State.outcomeOf e) := by
  obtain ⟨r, ⟨j, d, hj, hasked⟩, hseq, hresponse⟩ := hmeets
  obtain ⟨hmem, hentry⟩ := Client.mem_entries_of_find hfind
  obtain ⟨c, hi, hcseq⟩ := h.numbered.ofEntry hmem
  obtain ⟨x, hx⟩ : ∃ x, c.asked? = some x := by
    rw [Client.Call.asked?, hcseq]
    exact ⟨_, rfl⟩
  have hxseq : x.seq = r.seq := by
    rw [Client.Call.asked?, hcseq] at hx
    cases hx
    show UInt64.ofNat entry.seq = r.seq
    rw [hentry, UInt64.ofNat_toNat, hseq]
  have hnext := h.next
  have hij := Client.eq_of_asked h.numbered (by omega) hi hj hx hasked hxseq
  subst hij
  exact ⟨d, r, e, hj, hasked, hresponse, rfl⟩

/-- **The client stays truthful** if what it takes from the connection are responses to its
requests. -/
theorem truthful_step (h : Truthful server k)
    (hstep : Client.step client k label = some (k', shown)) (hfew : k.calls.length ≤ 2 ^ 64)
    (htaken : ∀ e, k.delivery client label = some e → Meets server k e) : Truthful server k' := by
  obtain ⟨hc, hregular⟩ := Client.change_of_step h.regular hstep
  refine ⟨hregular, Client.numbered_step hc.shift h.numbered, hc.shift.nextSeq_le_length h.next,
    Client.asking_step h.asking hc (Client.traffic_of_step hstep), ?_⟩
  intro i outcome htells
  rcases hc.tells htells with htold | hlocal | ⟨e, entry, hdelivery, hfind, rfl, rfl⟩
  · exact (h.told htold).imp_right fun hanswers => hanswers.after hc
  · exact Or.inl hlocal
  · have hanswers := answers_of_find h hfew hfind (htaken e hdelivery)
    exact Or.inr (hanswers.after hc)

end

/-! ## What is on its way -/

/-- A frame body of a response to a request of the client. -/
def MeetsBy (server : Connection.Setup) (k : Client.State) (body : Bytes) : Prop :=
  ∃ e, Envelope.decode body = .ok e ∧ Meets server k e

/-- What is on its way while the client reads. -/
structure Flowing (setup : Setup) (s : State) : Prop where
  books : ∃ r, Connection.Books setup.server r s.server
  read : ∀ r ∈ s.server.requests, s.client.Asks r
  requests : s.server.phase.isOpen = true → Frame.IsStream s.client.AsksBy
    (s.server.inbox ++ (s.requests.held ++ s.client.unwritten))
  responses : Frame.IsStream (MeetsBy setup.server s.client)
    (s.client.inbox ++ (s.responses.held ++ s.server.unwritten))

/-- What the client was told is true, and what is still to come will be. -/
structure Attributed (setup : Setup) (s : State) : Prop where
  client : Truthful setup.server s.client
  flowing : s.client.reader.ended = false → Flowing setup s

theorem attributed_start (setup : Setup) (permits : Nat) :
    Attributed setup (start permits) where
  client := truthful_start setup.server
  flowing _ := ⟨⟨_, Connection.books_start setup.server permits⟩, fun _ hr => (by cases hr),
    fun _ => .nil, .nil⟩

theorem Meets.after {server : Connection.Setup} {k k' : Client.State} {act : Option Client.Act}
    {taken : Option Envelope} {e : Envelope} (hc : Client.Change k act taken k')
    (h : Meets server k e) : Meets server k' e := by
  obtain ⟨r, hr, hrest⟩ := h
  exact ⟨r, hc.asks hr, hrest⟩

theorem MeetsBy.after {server : Connection.Setup} {k k' : Client.State} {act : Option Client.Act}
    {taken : Option Envelope} (hc : Client.Change k act taken k') (body : Bytes)
    (h : MeetsBy server k body) : MeetsBy server k' body := by
  obtain ⟨e, hdecode, hmeets⟩ := h
  exact ⟨e, hdecode, hmeets.after hc⟩

/-! ## Steps -/

/-- What the client takes from the connection are responses to its requests. -/
theorem meets_of_heard (h : Attributed setup s) {l : Client.Label} {k : Client.State}
    (hheard : Client.Heard setup.client s.client l k) (e : Envelope)
    (hdelivery : s.client.delivery setup.client l = some e) : Meets setup.server s.client e := by
  cases hheard with
  | ended _ hnone =>
    rw [hnone] at hdelivery
    cases hdelivery
  | nothing _ _ hnone =>
    rw [hnone] at hdelivery
    cases hdelivery
  | frame body e' hreads _ hscan hdecode hsome =>
    cases hsome.symm.trans hdelivery
    obtain ⟨_, ⟨x, hx, hmeets⟩, _⟩ := (h.flowing hreads).responses.of_scan hscan
    cases hdecode.symm.trans hx
    exact hmeets

/-- A client that still reads has read before, and what it left is a stream of responses. -/
theorem responses_of_heard (h : Attributed setup s) {l : Client.Label} {k : Client.State}
    (hheard : Client.Heard setup.client s.client l k) (hreads : k.reader.ended = false) :
    s.client.reader.ended = false ∧ Frame.IsStream (MeetsBy setup.server s.client)
      (k.inbox ++ (s.responses.held ++ s.server.unwritten)) := by
  cases hheard with
  | ended hended _ =>
    rw [hended] at hreads
    cases hreads
  | nothing hended hinbox _ =>
    rw [hended] at hreads
    exact ⟨hreads, hinbox ▸ (h.flowing hreads).responses⟩
  | frame body e hbefore _ hscan _ _ =>
    exact ⟨hbefore, ((h.flowing hbefore).responses.of_scan hscan).2.2⟩

/-- What the client has written and is about to write are frames of its requests. -/
theorem requests_of_traffic {l : Client.Label} {k : Client.State} {shown : List Client.Effect}
    {got held : Bytes} (hlimits : setup.IsClamped) (hasking : Client.Asking s.client)
    (ht : Client.Traffic setup.client s.client l k shown) (hl : ∀ cause, l ≠ .failWrite cause)
    (h : Frame.IsStream s.client.AsksBy (got ++ (held ++ s.client.unwritten))) :
    Frame.IsStream s.client.AsksBy (got ++ (held ++ Client.output shown ++ k.unwritten)) := by
  obtain ⟨bodies, hbytes, hbodies⟩ := ht.written hl
  have hmore : Frame.IsStream s.client.AsksBy (Frame.stream bodies) := by
    refine ⟨bodies, rfl, ?_⟩
    intro body hbody
    obtain ⟨hlength, n, hitem⟩ := hbodies body hbody
    exact ⟨Nat.le_trans hlength hlimits.client, hasking.items hitem⟩
  have hwhole := h.append hmore
  rwa [List.append_assoc, List.append_assoc, hbytes, ← List.append_assoc held] at hwhole

/-- **A step of the client**, whatever it is. -/
theorem attributed_client {l : Client.Label} {k : Client.State} {shown : List Client.Effect}
    (hlimits : setup.IsClamped) (h : Attributed setup s)
    (hfew : s.client.calls.length ≤ 2 ^ 64) (hallowed : s.allowsClient l = true)
    (hstep : Client.step setup.client s.client l = some (k, shown)) (ending : Bool) :
    Attributed setup { s with
      client := k
      requests := ⟨s.requests.held ++ Client.output shown, ending⟩ } := by
  have ht := Client.traffic_of_step hstep
  obtain ⟨hc, _⟩ := Client.change_of_step h.client.regular hstep
  have hheard := ht.heard fun bytes heq => by
    subst heq
    cases hallowed
  refine ⟨truthful_step h.client hstep hfew (meets_of_heard h hheard), ?_⟩
  intro hreads
  obtain ⟨hbefore, hstream⟩ := responses_of_heard h hheard hreads
  obtain ⟨hbooks, hread, hasked, _⟩ := h.flowing hbefore
  refine ⟨hbooks, fun r hr => hc.asks (hread r hr), ?_, hstream.mono (MeetsBy.after hc)⟩
  intro hopen
  -- the client's writing fails only when the server reads nothing more
  have hl : ∀ cause, l ≠ .failWrite cause := by
    rintro cause rfl
    rw [State.allowsClient, State.serverIsDeaf, Connection.State.hasEnded] at hallowed
    generalize s.server.phase = phase at hallowed hopen
    cases phase with
    | ended failure => cases hopen
    | _ => cases hallowed
  exact (requests_of_traffic hlimits h.client.asking ht hl (hasked hopen)).mono
    fun body hbody => hc.asksBy hbody

/-- A server that reads the frame of a request reads that request. -/
theorem asks_of_asksBy {k : Client.State} {body : Bytes} {e : Envelope} (h : k.AsksBy body)
    (hlength : body.length ≤ Frame.longest) (hdecode : Envelope.decode body = .ok e) :
    k.Asks ⟨e.header.method, e.header.seq, e.payload⟩ := by
  obtain ⟨r, hr, hencode⟩ := h
  obtain ⟨block, hback⟩ := Envelope.decode_encode_of_le hencode hlength (Nat.le_refl _)
  cases hdecode.symm.trans hback
  exact hr

/-- What a server has read are requests of the client. -/
theorem asks_of_heard {l : Connection.Label} {v : Connection.State} (h : Flowing setup s)
    (hheard : Connection.Heard setup.server s.server l v)
    (hrequests : v.requests = s.server.requests ++ (s.server.incoming setup.server l).toList) :
    ∀ r ∈ v.requests, s.client.Asks r := by
  rw [hrequests]
  intro r hr
  rcases List.mem_append.mp hr with hr | hr
  · exact h.read r hr
  · cases hheard with
    | ended _ hnone =>
      rw [hnone] at hr
      cases hr
    | nothing _ _ hnone =>
      rw [hnone] at hr
      cases hr
    | frame body e hopen hscan hdecode hsome =>
      rw [hsome] at hr
      cases List.mem_singleton.mp hr
      obtain ⟨hlength, hbody, _⟩ := (h.requests hopen).of_scan hscan
      exact asks_of_asksBy hbody hlength hdecode

/-- A server that still reads has read before, and what it left is a stream of requests. -/
theorem requests_of_heard {l : Connection.Label} {v : Connection.State} (h : Flowing setup s)
    (hheard : Connection.Heard setup.server s.server l v) (hopen : v.phase.isOpen = true) :
    Frame.IsStream s.client.AsksBy (v.inbox ++ (s.requests.held ++ s.client.unwritten)) := by
  cases hheard with
  | ended hended _ =>
    rw [hended] at hopen
    cases hopen
  | nothing hbefore hinbox _ =>
    rw [hinbox]
    exact h.requests hbefore
  | frame body e hbefore hscan _ _ => exact ((h.requests hbefore).of_scan hscan).2.2

/-- **A step of the server**, whatever it is. -/
theorem attributed_server {l : Connection.Label} {v : Connection.State}
    {shown : List Connection.Effect} (hlimits : setup.IsClamped) (h : Attributed setup s)
    (hallowed : s.allowsServer l = true)
    (hstep : Connection.step setup.server s.server l = some (v, shown)) (ending : Bool) :
    Attributed setup { s with
      server := v
      responses := ⟨s.responses.held ++ Connection.output shown, ending⟩ } := by
  refine ⟨h.client, ?_⟩
  intro hreads
  have hflowing := h.flowing hreads
  obtain ⟨r, hbooks⟩ := hflowing.books
  -- the server's writing fails only when the client reads nothing more
  have hbreaks : l.breaks = false := by
    cases l with
    | failWrite cause =>
      rw [State.allowsServer, State.clientIsDeaf, hreads] at hallowed
      cases hallowed
    | _ => rfl
  have hbooks' := Connection.books_step (Connection.change_of_step hbreaks hstep) hbooks
  have hheard := Connection.heard_of_step (fun bytes heq => by subst heq; cases hallowed) hstep
  have hread := asks_of_heard hflowing hheard (Connection.requests_of_books hbooks hbooks')
  have hasked := fun hopen => requests_of_heard hflowing hheard hopen
  refine ⟨⟨_, hbooks'⟩, hread, hasked, ?_⟩
  obtain ⟨behind, hbytes, hbehind⟩ := Connection.said_of_books hlimits.server hbooks hbooks'
  have hmore : Frame.IsStream (MeetsBy setup.server s.client) behind := by
    refine hbehind.mono ?_
    rintro body ⟨x, hx, e, hdecode, hseq, hresponse⟩
    exact ⟨e, hdecode, x, hread x hx, hseq, hresponse⟩
  have hwhole := hflowing.responses.append hmore
  rwa [List.append_assoc, List.append_assoc, ← hbytes, ← List.append_assoc s.responses.held]
    at hwhole

/-- Bytes arrive at the server. -/
theorem Attributed.carryRequests (h : Attributed setup s) (n : Nat) : Attributed setup { s with
    server := { s.server with inbox := s.server.inbox ++ s.requests.held.take n }
    requests := { s.requests with held := s.requests.held.drop n } } := by
  refine ⟨h.client, ?_⟩
  intro hreads
  obtain ⟨⟨r, hbooks⟩, hread, hasked, hstream⟩ := h.flowing hreads
  refine ⟨⟨r, hbooks.kept, hbooks.writing, hbooks.output⟩, hread, ?_, hstream⟩
  intro hopen
  show Frame.IsStream _ (s.server.inbox ++ s.requests.held.take n ++
    (s.requests.held.drop n ++ s.client.unwritten))
  rw [List.append_assoc, ← List.append_assoc (s.requests.held.take n), List.take_append_drop]
  exact hasked hopen

/-- Bytes arrive at the client. -/
theorem Attributed.carryResponses (h : Attributed setup s) (hfew : s.client.calls.length ≤ 2 ^ 64)
    (n : Nat) (hinput : s.client.inputEnded = false) : Attributed setup { s with
      client := { s.client with inbox := s.client.inbox ++ s.responses.held.take n }
      responses := { s.responses with held := s.responses.held.drop n } } := by
  have harrive : Client.step setup.client s.client (.arrive (s.responses.held.take n))
      = some ({ s.client with inbox := s.client.inbox ++ s.responses.held.take n }, []) := by
    rw [Client.step]
    exact if_neg (by simp [hinput])
  refine ⟨truthful_step h.client harrive hfew fun e he => (by cases he), ?_⟩
  intro hreads
  obtain ⟨hbooks, hread, hasked, hstream⟩ := h.flowing hreads
  refine ⟨hbooks, hread, hasked, ?_⟩
  show Frame.IsStream _ (s.client.inbox ++ s.responses.held.take n ++
    (s.responses.held.drop n ++ s.server.unwritten))
  rw [List.append_assoc, ← List.append_assoc (s.responses.held.take n), List.take_append_drop]
  exact hstream

/-- The client learns that the stream of responses has ended. -/
theorem Attributed.endResponses (h : Attributed setup s)
    (hfew : s.client.calls.length ≤ 2 ^ 64) :
    Attributed setup { s with client := { s.client with inputEnded := true } } := by
  have hend : Client.step setup.client s.client .endInput
      = some ({ s.client with inputEnded := true }, []) := rfl
  refine ⟨truthful_step h.client hend hfew fun e he => (by cases he), ?_⟩
  intro hreads
  obtain ⟨hbooks, hread, hasked, hstream⟩ := h.flowing hreads
  exact ⟨hbooks, hread, hasked, hstream⟩

/-- **Whatever happens between the two sides**, what the client is told stays true. -/
theorem attributed_step {label : Label} {events : List Event} (hlimits : setup.IsClamped)
    (h : Attributed setup s) (hfew : s.client.calls.length ≤ 2 ^ 64)
    (hstep : step setup s label = some (s', events)) : Attributed setup s' := by
  cases move_of_step hstep with
  | client hallowed hk => exact attributed_client hlimits h hfew hallowed hk _
  | server hallowed hv => exact attributed_server hlimits h hallowed hv _
  | carryRequests n _ => exact h.carryRequests n
  | endRequests _ =>
    refine ⟨h.client, fun hreads => ?_⟩
    obtain ⟨⟨r, hbooks⟩, hread, hasked, hstream⟩ := h.flowing hreads
    exact ⟨⟨r, hbooks.kept, hbooks.writing, hbooks.output⟩, hread, hasked, hstream⟩
  | carryResponses n hinput => exact h.carryResponses hfew n hinput
  | endResponses _ => exact h.endResponses hfew

/-- **In every run, whatever cuts it short, a client is told nothing but the truth.** -/
theorem attributed_of_run {past : List (Moment State Label Event)} (hlimits : setup.IsClamped)
    (hrun : Run (step setup) (start permits) past s) (hfew : s.client.calls.length ≤ 2 ^ 64) :
    Attributed setup s := by
  induction hrun with
  | start => exact attributed_start setup permits
  | @snoc past s s' label shown hrun hstep ih =>
    have hle := (keepsCalls_of_step (regular_of_run hrun) hstep).2.length_le
    have hbefore : s.client.calls.length ≤ 2 ^ 64 := Nat.le_trans hle hfew
    exact attributed_step hlimits (ih hbefore) hbefore hstep

end RemoteCall.Conversation
