import RemoteCall.Proofs.Envelope.RoundTrip
import RemoteCall.Proofs.Server.Phases
import RemoteCall.Server.Serving

/-!
# What a connection writes

Whatever the peer sends and in whatever order tasks run, what goes out on a connection can be
accounted for request by request (`Accounted`): it is a stream of whole frames, no two of them for
the same request, and each is a response to a request that was read, with the number of that request
and what the registry says to it.  No handler runs twice for a request, and once the connection is
over every handler has run that was asked for.

Beside the reply of the registry there are two more that a peer may see (`IsResponse`): the one for a
handler that panicked, and the substitute for a reply that has no frame.
-/

namespace RemoteCall

/-! ## The frames of replies -/

/-- An envelope that answers under this number and says what the reply says. -/
def Reply.IsCarriedBy (r : Reply) (seq : UInt64) (e : Envelope) : Prop :=
  e.header.method = "" ∧ e.header.seq = seq ∧ e.header.kind = r.kind ∧ e.header.error = r.error ∧
    e.payload = r.payload

theorem Reply.frame_eq_ok {r : Reply} {limit : Nat} {seq : UInt64} {frame : Bytes}
    (h : r.frame limit seq = .ok frame) :
    ∃ body, Envelope.encode (.response seq r.kind r.error) r.payload = .ok body ∧
      body.length ≤ limit ∧ frame = Frame.encode body := by
  unfold Reply.frame at h
  split at h
  · cases h
  · next body hbody =>
    rw [Frame.encode?] at h
    split at h
    · next hlen =>
      cases h
      exact ⟨body, hbody, hlen, rfl⟩
    · cases h

/-- A frame of a reply is a body of which a reader makes an envelope that says the same. -/
theorem Reply.carried_of_frame {r : Reply} {limit : Nat} {seq : UInt64} {frame : Bytes}
    (hlimit : limit ≤ Frame.longest) (h : r.frame limit seq = .ok frame) :
    ∃ body e, frame = Frame.encode body ∧ body.length ≤ limit ∧ Envelope.decode body = .ok e ∧
      r.IsCarriedBy seq e := by
  obtain ⟨body, hbody, hlen, hframe⟩ := Reply.frame_eq_ok h
  obtain ⟨block, hdecode⟩ := Envelope.decode_encode_of_le hbody hlen hlimit
  exact ⟨body, _, hframe, hlen, hdecode, rfl, rfl, rfl, rfl, rfl⟩

namespace Connection

variable {setup : Setup} {s : State} {past : List (Moment State Label Effect)}

/-- What an envelope may say in answer to a request. -/
inductive IsResponse (setup : Setup) (request : Request) (e : Envelope) : Prop
  /-- What the registry says. -/
  | dispatched (events : List Event) (reply : Reply) :
      setup.registry.dispatch request.method request.payload = .replied events reply →
      reply.IsCarriedBy request.seq e → IsResponse setup request e
  /-- That the handler panicked. -/
  | panicked : setup.registry.dispatch request.method request.payload = .panicked →
      (Reply.failed .application ("rpc: handler for " ++ request.method ++ " panicked")).IsCarriedBy
        request.seq e → IsResponse setup request e
  /-- That there is no frame for what should have been said. -/
  | substituted (cause : LinkError) :
      (setup.answer request).frame setup.frameLimit request.seq = .error cause →
      (Reply.failed .application ("rpc: cannot send reply: " ++ cause.message)).IsCarriedBy
        request.seq e → IsResponse setup request e

theorem isResponse_of_answer {request : Request} {e : Envelope}
    (h : (setup.answer request).IsCarriedBy request.seq e) : IsResponse setup request e := by
  unfold Setup.answer at h
  split at h
  · next events reply hdispatch => exact .dispatched events reply hdispatch h
  · next hdispatch => exact .panicked hdispatch h

/-- The frame that answers a request holds a response to it. -/
theorem response_of_outcome {request : Request} {frame : Bytes}
    (hlimit : setup.frameLimit ≤ Frame.longest) (h : setup.outcome request = .ok frame) :
    ∃ body e, frame = Frame.encode body ∧ body.length ≤ setup.frameLimit ∧
      Envelope.decode body = .ok e ∧ e.header.method = "" ∧ e.header.seq = request.seq ∧
      IsResponse setup request e := by
  rw [Setup.outcome, Reply.frameOrSubstitute] at h
  split at h
  · next frame' hframe =>
    cases h
    obtain ⟨body, e, hbody, hlen, hdecode, hcarried⟩ := Reply.carried_of_frame hlimit hframe
    exact ⟨body, e, hbody, hlen, hdecode, hcarried.1, hcarried.2.1, isResponse_of_answer hcarried⟩
  · next cause hcause =>
    obtain ⟨body, e, hbody, hlen, hdecode, hcarried⟩ := Reply.carried_of_frame hlimit h
    exact ⟨body, e, hbody, hlen, hdecode, hcarried.1, hcarried.2.1,
      .substituted cause hcause hcarried⟩

/-! ## What can be read off the books -/

theorem frameLimit_connection (serving : Serving.Setup) (peer : String) :
    (serving.connection peer).frameLimit ≤ Frame.longest :=
  Nat.min_le_right _ _

/-- A request that was read has a task, and its stage fits. -/
theorem Kept.task_of_request {r : Record} {tasks : List Task} (h : Kept setup r tasks) {i : Nat}
    {request : Request} (hi : r.requests[i]? = some request) :
    ∃ t, tasks[i]? = some t ∧ t.request = request := by
  rw [← h.requests, List.getElem?_map] at hi
  exact Option.map_eq_some_iff.mp hi

theorem Kept.request_of_task {r : Record} {tasks : List Task} (h : Kept setup r tasks) {i : Nat}
    {t : Task} (hi : tasks[i]? = some t) : r.requests[i]? = some t.request := by
  rw [← h.requests, List.getElem?_map, hi]
  rfl

theorem handler_eq_some {request : Request} {method : Method} :
    setup.handler request = some method ↔ setup.registry.lookup request.method = .ok method := by
  rw [Setup.handler]
  cases setup.registry.lookup request.method with
  | error cause => simp [Except.toOption]
  | ok found => exact ⟨fun h => by cases h; rfl, fun h => by cases h; rfl⟩

/-- A handler runs for a request that asks for it, and no more than once. -/
theorem Kept.handled_once {r : Record} {tasks : List Task} (h : Kept setup r tasks) (i : Nat) :
    r.handled.count i ≤ 1 ∧ (r.handled.count i = 1 → ∃ request method,
      r.requests[i]? = some request ∧ setup.registry.lookup request.method = .ok method) := by
  cases hi : tasks[i]? with
  | none =>
    have hzero := (h.unread (List.getElem?_eq_none_iff.mp hi)).1
    exact ⟨by omega, by omega⟩
  | some t =>
    have hle := (h.fits hi).le_runs
    cases hhandler : setup.handler t.request with
    | none =>
      rw [runs_eq_zero hhandler] at hle
      exact ⟨by omega, by omega⟩
    | some method =>
      rw [runs_eq_one hhandler] at hle
      exact ⟨hle, fun _ =>
        ⟨t.request, method, h.request_of_task hi, handler_eq_some.mp hhandler⟩⟩

/-- The frames of a task are those that its request asks for. -/
theorem Kept.framesOf_cases {r : Record} {tasks : List Task} (h : Kept setup r tasks) (i : Nat) :
    r.framesOf i = [] ∨ ∃ t frame, tasks[i]? = some t ∧ setup.outcome t.request = .ok frame ∧
      r.framesOf i = [frame] := by
  cases hi : tasks[i]? with
  | none => exact Or.inl (h.unread (List.getElem?_eq_none_iff.mp hi)).2
  | some t =>
    rcases (h.fits hi).frames_cases with hnil | hframes
    · exact Or.inl hnil
    · cases hout : setup.outcome t.request with
      | error cause => exact Or.inl (hframes.trans (frames_of_error hout))
      | ok frame => exact Or.inr ⟨t, frame, rfl, hout, hframes.trans (frames_of_ok hout)⟩

theorem mem_framesOf {r : Record} {i : Nat} {frame : Bytes} :
    frame ∈ r.framesOf i ↔ (i, frame) ∈ r.frames := by
  rw [Record.framesOf, List.mem_map]
  constructor
  · rintro ⟨⟨j, f⟩, hmem, rfl⟩
    obtain ⟨hmem, hj⟩ := List.mem_filter.mp hmem
    rw [decide_eq_true_iff] at hj
    exact hj ▸ hmem
  · intro hmem
    exact ⟨(i, frame), List.mem_filter.mpr ⟨hmem, decide_eq_true rfl⟩, rfl⟩

theorem Kept.nodup_frames {r : Record} {tasks : List Task} (h : Kept setup r tasks) :
    (r.frames.map Prod.fst).Nodup := by
  rw [List.nodup_iff_count]
  intro i
  -- how often a task stands in the list is how many frames it has
  have hcount : (r.frames.map Prod.fst).count i = (r.framesOf i).length := by
    rw [Record.framesOf, List.length_map]
    induction r.frames with
    | nil => rfl
    | cons frame frames ih =>
      rw [List.map_cons, List.count_cons, List.filter_cons, ih]
      by_cases hi : frame.1 = i
      · simp [hi]
      · simp [hi]
  rw [hcount]
  rcases h.framesOf_cases i with hnil | ⟨_, _, _, _, hone⟩
  · rw [hnil]
    exact Nat.zero_le 1
  · rw [hone]
    exact Nat.le_refl 1

/-- The bodies of the frames that were begun, and their tasks. -/
def Record.sent (r : Record) : List (Nat × Bytes) :=
  r.frames.map fun frame => (frame.1, frame.2.drop 4)

/-- What was begun is, frame by frame, a response to the request of its task. -/
theorem Kept.response_of_frame {r : Record} {tasks : List Task} (h : Kept setup r tasks)
    (hlimit : setup.frameLimit ≤ Frame.longest) {i : Nat} {frame : Bytes}
    (hmem : (i, frame) ∈ r.frames) :
    ∃ t e, tasks[i]? = some t ∧ frame = Frame.encode (frame.drop 4) ∧
      (frame.drop 4).length ≤ setup.frameLimit ∧ Envelope.decode (frame.drop 4) = .ok e ∧
      e.header.method = "" ∧ e.header.seq = t.request.seq ∧ IsResponse setup t.request e := by
  rw [← mem_framesOf] at hmem
  rcases h.framesOf_cases i with hnil | ⟨t, frame', hi, hout, hone⟩
  · rw [hnil] at hmem
    cases hmem
  · rw [hone] at hmem
    obtain ⟨body, e, hbody, hrest⟩ := response_of_outcome hlimit hout
    have hdrop : frame.drop 4 = body := by
      rw [List.mem_singleton.mp hmem, hbody, Frame.encode]
      exact List.drop_left' (Bytes.bigEndian_length _ _)
    rw [hdrop]
    exact ⟨t, e, hi, (List.mem_singleton.mp hmem).trans hbody, hrest⟩

/-- The same for the bodies. -/
theorem Kept.response_of_sent {r : Record} {tasks : List Task} (h : Kept setup r tasks)
    (hlimit : setup.frameLimit ≤ Frame.longest) {i : Nat} {body : Bytes}
    (hmem : (i, body) ∈ r.sent) :
    ∃ t e, tasks[i]? = some t ∧ body.length ≤ setup.frameLimit ∧ Envelope.decode body = .ok e ∧
      e.header.method = "" ∧ e.header.seq = t.request.seq ∧ IsResponse setup t.request e := by
  obtain ⟨⟨j, frame⟩, hframe, heq⟩ := List.mem_map.mp hmem
  cases heq
  obtain ⟨t, e, hi, _, hrest⟩ := h.response_of_frame hlimit hframe
  exact ⟨t, e, hi, hrest⟩

/-- What went out and what is left of the current frame is the stream of these bodies. -/
theorem Books.output_eq_stream {r : Record} (h : Books setup r s)
    (hlimit : setup.frameLimit ≤ Frame.longest) :
    r.written ++ s.unwritten = Frame.stream (r.sent.map Prod.snd) := by
  rw [h.output, Frame.stream, Record.sent, List.map_map, List.flatMap_map, List.flatMap_def,
    List.flatMap_def]
  refine congrArg List.flatten (List.map_congr_left fun frame hmem => ?_)
  obtain ⟨_, _, _, hframe, _⟩ := h.kept.response_of_frame hlimit hmem
  exact hframe

/-! ## The account -/

/-- What a connection can show for all that it did. -/
structure Accounted (setup : Setup) (past : List (Moment State Label Effect)) (s : State) :
    Prop where
  /-- What was written, with what is left of the current frame, is a stream of whole frames, no two
  of them for the same request, and each holds a response to a request that was read. -/
  responses : ∃ sent : List (Nat × Bytes),
    (record setup past).written ++ s.unwritten = Frame.stream (sent.map Prod.snd) ∧
    (sent.map Prod.fst).Nodup ∧
    ∀ i body, (i, body) ∈ sent → ∃ request e, (record setup past).requests[i]? = some request ∧
      body.length ≤ setup.frameLimit ∧ Envelope.decode body = .ok e ∧ e.header.method = "" ∧
      e.header.seq = request.seq ∧ IsResponse setup request e
  /-- A handler runs only for a request that was read, and no more than once. -/
  once : ∀ i, (record setup past).handled.count i ≤ 1 ∧
    ((record setup past).handled.count i = 1 →
      ∃ request method, (record setup past).requests[i]? = some request ∧
        setup.registry.lookup request.method = .ok method)
  /-- Once the connection closes, nothing is left to write, and the handlers of all requests that
  were read have run. -/
  ended : s.phase.isLate = true → s.unwritten = [] ∧
    ∀ i request method, (record setup past).requests[i]? = some request →
      setup.registry.lookup request.method = .ok method →
      (record setup past).handled.count i = 1

/-- **What a connection writes is accounted for request by request**, for every registry, every
limit, every number of permits and everything that the peer may send, as long as writing does not
fail. -/
theorem accounted_of_run {serving : Serving.Setup} {peer : String} {permits : Nat}
    (h : Run (step (serving.connection peer)) (start permits) past s)
    (hl : ∀ m ∈ past, m.label.breaks = false) :
    Accounted (serving.connection peer) past s := by
  have hbooks := books_of_run h hl
  have hphased := phased_of_run h
  have hkept := hbooks.kept
  have hlimit := frameLimit_connection serving peer
  generalize serving.connection peer = setup at *
  refine ⟨⟨(record setup past).sent, hbooks.output_eq_stream hlimit, ?_, ?_⟩,
    hkept.handled_once, ?_⟩
  · rw [Record.sent, List.map_map]
    exact hkept.nodup_frames
  · intro i body hmem
    obtain ⟨t, e, hi, hrest⟩ := hkept.response_of_sent hlimit hmem
    exact ⟨t.request, e, hkept.request_of_task hi, hrest⟩
  · intro hlate
    constructor
    · cases hwriting : s.writing with
      | none => rw [State.unwritten, hwriting]
      | some task =>
        obtain ⟨t, hi, hstage⟩ := hbooks.writing.1 task.1 task.2 hwriting
        have hover := hphased.drained hlate hi
        rw [hstage] at hover
        cases hover
    · intro i request method hi hlookup
      obtain ⟨t, ht, rfl⟩ := hkept.task_of_request hi
      have hruns := ((hkept.fits ht).of_over (hphased.drained hlate ht)).2.1
      rw [hruns, runs_eq_one (handler_eq_some.mpr hlookup)]

/-- A request as its bytes arrive. -/
def requestBytes (method : String) (seq : UInt64) (payload : Bytes) : Bytes :=
  match Envelope.encode (.request method seq) payload with
  | .ok body => Frame.encode body
  | .error _ => []

/-- A service with three methods: the first sends its payload back, the second panics, and the last
has a long reply. -/
def sampleServing (limit : Nat) : Serving.Setup where
  registry := ⟨[("A", [
    ("B", ⟨fun _ payload => .replied [] (.ok payload), fun _ => none⟩),
    ("C", ⟨fun _ _ => .panicked, fun _ => none⟩),
    ("D", ⟨fun _ _ => .replied [] (.ok ((List.range 120).map UInt8.ofNat)), fun _ => none⟩)])]⟩
  config := { ServerConfig.default with frameLimit := limit }

/-- Four requests arrive at once, one of them for an unknown target.  Their answers go out in
another order and in pieces, and in between the server shuts down. -/
def mixedLabels : List Label :=
  [.announce, .arrive (requestBytes "A.B" 5 [1, 2] ++ requestBytes "A.C" 6 [] ++
      requestBytes "X.Y" 7 [] ++ requestBytes "A.D" 8 []),
    .read, .acquire, .read, .acquire, .read, .handle 1, .takeWriter 2, .write 10, .write 62,
    .resume, .read, .acquire, .handle 3, .shutdown, .takeWriter 3, .notice, .write 122,
    .takeWriter 1, .write 74, .report 1 0, .report 3 0, .handle 0, .takeWriter 0, .write 48,
    .report 0 0, .drain, .endOutput]

theorem accounted_of_mixed_run : ∃ past s,
    Run (step ((sampleServing 150).connection "peer")) (start 3) past s ∧
      (∀ m ∈ past, m.label.breaks = false) ∧
      s.phase = .closed none ∧
      (record ((sampleServing 150).connection "peer") past).handled = [1, 3, 0] ∧
      (record ((sampleServing 150).connection "peer") past).frames.map Prod.fst = [2, 3, 1, 0] ∧
      Accounted ((sampleServing 150).connection "peer") past s := by
  have hruns : (replay (step ((sampleServing 150).connection "peer")) (start 3) mixedLabels).map
      (fun r => (r.1.all fun m => !m.label.breaks, r.2.phase,
        (record ((sampleServing 150).connection "peer") r.1).handled,
        (record ((sampleServing 150).connection "peer") r.1).frames.map Prod.fst))
      = some (true, .closed none, [1, 3, 0], [2, 3, 1, 0]) := by decide +kernel
  obtain ⟨⟨past, s⟩, hreplay, hvalues⟩ := Option.map_eq_some_iff.mp hruns
  simp only [Prod.mk.injEq, List.all_eq_true, Bool.not_eq_true'] at hvalues
  obtain ⟨hbreaks, hphase, hhandled, hframes⟩ := hvalues
  have hrun := Run.of_replay hreplay
  exact ⟨past, s, hrun, hbreaks, hphase, hhandled, hframes, accounted_of_run hrun hbreaks⟩

end Connection

end RemoteCall
