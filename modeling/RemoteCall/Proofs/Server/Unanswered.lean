import RemoteCall.Proofs.Server.Responses

/-!
# Requests that stay without an answer

A reply that has no frame is replaced by a substitute, and the substitute may have no frame either.
For an unknown target the connection then stops with that failure, so the peer learns that something
went wrong.  A dispatched task only reports the failure, and the connection goes on: the peer waits
for a response that will never come.

`answered_iff` says that this is the only way in which a request can stay without an answer, once
everything has come to rest, and `exists_unanswered` that it does happen.  It takes a frame limit
that the substitute's text does not fit, as it tells the lengths that were too large.
-/

namespace RemoteCall.Connection

/-- Nothing is on its way any more: all bytes went out, all dispatched tasks are over, and the
connection is not busy with a request. -/
structure State.AtRest (s : State) : Prop where
  written : s.writing = none
  finished : ∀ {i : Nat} {t : Task}, s.tasks[i]? = some t → t.handler.isSome = true →
    t.stage.isOver = true
  free : ∀ i, s.phase ≠ .busy i

/-- Whether a body is a response under this number. -/
def isResponseTo (seq : UInt64) (body : Bytes) : Bool :=
  match Envelope.decode body with
  | .ok e => e.header.seq = seq
  | .error _ => false

/-- How many responses under this number stand in a stream of frames. -/
def responsesTo (seq : UInt64) (stream : Bytes) : Nat :=
  (Frame.bodies stream).countP (isResponseTo seq)

variable {setup : Setup} {s : State} {past : List (Moment State Label Effect)} {permits : Nat}
  {r : Record}

theorem isOver_of_atRest (h : Phased permits s) (hrest : s.AtRest) {i : Nat} {t : Task}
    (hi : s.tasks[i]? = some t) : t.stage.isOver = true := by
  cases hhandler : t.handler with
  | some method => exact hrest.finished hi (by rw [hhandler]; rfl)
  | none =>
    cases hover : t.stage.isOver with
    | true => rfl
    | false =>
      -- a request for an unknown target would keep the connection busy
      have hheld : t.holdsReading = true := by
        rw [Task.holdsReading, hhandler]
        simp [hover]
      exact absurd (h.holds hi hheld) (hrest.free i)

/-- Among bodies that answer their requests those under the number of one request are its own, if
numbers are not used twice. -/
theorem countP_sent (hseqs : (r.requests.map Request.seq).Nodup) {i : Nat} {request : Request}
    (hi : r.requests[i]? = some request) {sent : List (Nat × Bytes)}
    (hsent : ∀ j body, (j, body) ∈ sent → ∃ owner e, r.requests[j]? = some owner ∧
      Envelope.decode body = .ok e ∧ e.header.seq = owner.seq) :
    (sent.map Prod.snd).countP (isResponseTo request.seq)
      = sent.countP fun response => response.1 = i := by
  rw [List.countP_map]
  apply List.countP_congr
  rintro ⟨j, body⟩ hmem
  obtain ⟨owner, e, howner, hdecode, hseq⟩ := hsent j body hmem
  show isResponseTo request.seq body = true ↔ decide (j = i) = true
  rw [isResponseTo, hdecode]
  show decide (e.header.seq = request.seq) = true ↔ _
  rw [decide_eq_true_iff, decide_eq_true_iff, hseq]
  constructor
  · -- one number, one request, so the bodies are those of the same task
    intro heq
    have hlt := (List.getElem?_eq_some_iff.mp howner).1
    refine (List.getElem?_inj ?_ hseqs).mp ?_
    · rwa [List.length_map]
    · rw [List.getElem?_map, List.getElem?_map, howner, hi]
      exact congrArg some heq
  · rintro rfl
    rw [hi] at howner
    cases howner
    rfl

/-- **At rest, the responses under the number of a request are its frames**, one or none. -/
theorem responsesTo_eq (hlimit : setup.frameLimit ≤ Frame.longest) (hbooks : Books setup r s)
    (hphased : Phased permits s) (hrest : s.AtRest) (hseqs : (r.requests.map Request.seq).Nodup)
    {i : Nat} {t : Task} (hi : s.tasks[i]? = some t) :
    responsesTo t.request.seq r.written = (setup.frames t.request).length := by
  have hkept := hbooks.kept
  have hsent : ∀ j body, (j, body) ∈ r.sent → ∃ owner e, r.requests[j]? = some owner ∧
      Envelope.decode body = .ok e ∧ e.header.seq = owner.seq := by
    intro j body hmem
    obtain ⟨u, e, hj, _, hdecode, _, hseq, _⟩ := hkept.response_of_sent hlimit hmem
    exact ⟨u.request, e, hkept.request_of_task hj, hdecode, hseq⟩
  -- at rest no frame is half written, so what went out falls apart into whole frames
  have hwritten : r.written = Frame.stream (r.sent.map Prod.snd) := by
    have hout := hbooks.output_eq_stream hlimit
    rwa [State.unwritten, hrest.written, List.append_nil] at hout
  have hshort : ∀ body ∈ r.sent.map Prod.snd, body.length ≤ Frame.longest := by
    intro body hmem
    obtain ⟨⟨j, b⟩, hpair, rfl⟩ := List.mem_map.mp hmem
    obtain ⟨_, _, _, hlen, _⟩ := hkept.response_of_sent hlimit hpair
    exact Nat.le_trans hlen hlimit
  rw [responsesTo, hwritten, Frame.bodies_stream hshort,
    countP_sent hseqs (hkept.request_of_task hi) hsent,
    ← ((hkept.fits hi).of_over (isOver_of_atRest hphased hrest hi)).2.2, Record.framesOf,
    List.length_map, Record.sent, List.countP_map, List.countP_eq_length_filter]
  rfl

/-- **When a request stays without an answer.**  Once all is at rest, a request that was read has
exactly one response on the connection, or the connection has stopped with a failure, unless its
target exists and neither its reply nor the substitute has a frame. -/
theorem answered_iff {serving : Serving.Setup} {peer : String}
    (h : Run (step (serving.connection peer)) (start permits) past s)
    (hl : ∀ m ∈ past, m.label.breaks = false) (hrest : s.AtRest)
    (hseqs : ((record (serving.connection peer) past).requests.map Request.seq).Nodup) :
    ∀ request ∈ (record (serving.connection peer) past).requests,
      (responsesTo request.seq (record (serving.connection peer) past).written = 1 ∨
          s.phase.hasFailed = true) ↔
        s.phase.hasFailed = true ∨
          (∃ cause, serving.registry.lookup request.method = .error cause) ∨
          ∃ frame, (serving.connection peer).outcome request = .ok frame := by
  intro request hmem
  have hbooks := books_of_run h hl
  have hphased := phased_of_run h
  have hregistry : (serving.connection peer).registry = serving.registry := rfl
  obtain ⟨i, hi⟩ := List.getElem?_of_mem hmem
  obtain ⟨t, ht, rfl⟩ := hbooks.kept.task_of_request hi
  have hcount := responsesTo_eq (frameLimit_connection serving peer) hbooks hphased hrest hseqs ht
  have hstage := ((hbooks.kept.fits ht).of_over (isOver_of_atRest hphased hrest ht)).1
  have hhandler := hbooks.kept.handler ht
  rw [hcount, Setup.frames]
  rw [Setup.failure] at hstage
  cases hout : (serving.connection peer).outcome t.request with
  | ok frame =>
    constructor
    · intro _
      exact Or.inr (Or.inr ⟨frame, rfl⟩)
    · intro _
      exact Or.inl rfl
  | error cause =>
    rw [hout] at hstage
    constructor
    · rintro (hone | hfailed)
      · cases hone
      · exact Or.inl hfailed
    · rintro (hfailed | ⟨missing, hlookup⟩ | ⟨frame, hframe⟩)
      · exact Or.inr hfailed
      · -- the connection stops when it cannot answer for an unknown target
        have hnone : t.handler = none := by
          rw [hhandler, Setup.handler, hregistry, hlookup]
          rfl
        exact Or.inr (hphased.failed ht hnone hstage)
      · cases hframe

/-- A drained connection that reads on is at rest. -/
theorem atRest_of_reading (hwriting : s.writing = none) (hdrained : s.isDrained = true)
    (hphase : s.phase = .reading) : s.AtRest where
  written := hwriting
  finished hi _ := List.all_eq_true.mp hdrained _ (List.mem_of_getElem? hi)
  free i hbusy := by
    rw [hphase] at hbusy
    cases hbusy

/-- A request whose reply has no frame within 60 bytes, behind one whose reply has. -/
def halfHeardLabels : List Label :=
  [.announce, .arrive (requestBytes "A.B" 7 [1] ++ requestBytes "A.D" 8 []), .read, .acquire,
    .read, .acquire, .handle 1, .takeWriter 1, .handle 0, .takeWriter 0, .write 47, .report 1 0,
    .report 0 0]

theorem answered_iff_of_half_heard : ∃ past s,
    Run (step ((sampleServing 60).connection "peer")) (start 2) past s ∧
      (∀ m ∈ past, m.label.breaks = false) ∧ s.AtRest ∧
      (record ((sampleServing 60).connection "peer") past).requests.map Request.seq = [7, 8] ∧
      ((record ((sampleServing 60).connection "peer") past).requests.map Request.seq).Nodup ∧
      ∀ request ∈ (record ((sampleServing 60).connection "peer") past).requests,
        (responsesTo request.seq
              (record ((sampleServing 60).connection "peer") past).written = 1 ∨
            s.phase.hasFailed = true) ↔
          s.phase.hasFailed = true ∨
            (∃ cause, (sampleServing 60).registry.lookup request.method = .error cause) ∨
            ∃ frame, ((sampleServing 60).connection "peer").outcome request = .ok frame := by
  have hruns : (replay (step ((sampleServing 60).connection "peer")) (start 2) halfHeardLabels).map
      (fun r => ((r.1.all fun m => !m.label.breaks) && r.2.isDrained, r.2.writing, r.2.phase,
        (record ((sampleServing 60).connection "peer") r.1).requests.map Request.seq))
      = some (true, none, .reading, [7, 8]) := by decide +kernel
  obtain ⟨⟨past, s⟩, hreplay, hvalues⟩ := Option.map_eq_some_iff.mp hruns
  simp only [Prod.mk.injEq, Bool.and_eq_true, List.all_eq_true, Bool.not_eq_true'] at hvalues
  obtain ⟨⟨hbreaks, hdrained⟩, hwriting, hphase, hrequests⟩ := hvalues
  have hrun := Run.of_replay hreplay
  have hrest := atRest_of_reading hwriting hdrained hphase
  have hnodup : ((record ((sampleServing 60).connection "peer") past).requests.map
      Request.seq).Nodup := by
    rw [hrequests]
    decide
  exact ⟨past, s, hrun, hbreaks, hrest, hrequests, hnodup,
    answered_iff hrun hbreaks hrest hnodup⟩

/-- A single request whose reply has no frame within 60 bytes. -/
def silentLabels : List Label :=
  [.announce, .arrive (requestBytes "A.D" 8 []), .read, .acquire, .handle 0, .takeWriter 0,
    .report 0 0]

/-- **A request can stay without an answer** while the connection goes on as if nothing had
happened: all is at rest, nobody shut the server down, and there is no response. -/
theorem exists_unanswered : ∃ past s,
    Run (step ((sampleServing 60).connection "peer")) (start 1) past s ∧
      (∀ m ∈ past, m.label.breaks = false) ∧ s.shutdown = false ∧ s.AtRest ∧
      s.phase.hasFailed = false ∧
      ((record ((sampleServing 60).connection "peer") past).requests.map Request.seq).Nodup ∧
      ∃ request ∈ (record ((sampleServing 60).connection "peer") past).requests,
        responsesTo request.seq
          (record ((sampleServing 60).connection "peer") past).written = 0 := by
  have hruns : (replay (step ((sampleServing 60).connection "peer")) (start 1) silentLabels).map
      (fun r => ((r.1.all fun m => !m.label.breaks) && r.2.isDrained && !r.2.shutdown
          && (record ((sampleServing 60).connection "peer") r.1).written.isEmpty,
        r.2.writing, r.2.phase, (record ((sampleServing 60).connection "peer") r.1).requests))
      = some (true, none, .reading, [⟨"A.D", 8, []⟩]) := by decide +kernel
  obtain ⟨⟨past, s⟩, hreplay, hvalues⟩ := Option.map_eq_some_iff.mp hruns
  simp only [Prod.mk.injEq, Bool.and_eq_true, List.all_eq_true, Bool.not_eq_true',
    List.isEmpty_iff] at hvalues
  obtain ⟨⟨⟨⟨hbreaks, hdrained⟩, hshutdown⟩, hwritten⟩, hwriting, hphase, hrequests⟩ := hvalues
  refine ⟨past, s, Run.of_replay hreplay, hbreaks, hshutdown,
    atRest_of_reading hwriting hdrained hphase, by rw [hphase]; rfl, ?_, ⟨"A.D", 8, []⟩, ?_, ?_⟩
  · rw [hrequests]
    decide
  · rw [hrequests]
    exact List.mem_singleton_self _
  · rw [hwritten, responsesTo, Frame.bodies_nil]
    rfl

end RemoteCall.Connection
