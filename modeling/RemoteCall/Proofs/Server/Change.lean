import RemoteCall.Proofs.Run
import RemoteCall.Proofs.Server.Moves
import RemoteCall.Service.Call

/-!
# What a step of a connection does to its requests

The connection reads, its tasks run and write; for a request only a few things can happen, in one
order: it is read, gets a permit, its handler runs, its frame is begun, the frame goes out, and the
end is reported.  `Change` lists these steps with what each asks for.  Beside the state it speaks of
what a step shows to somebody who keeps a record: the request that was taken over, the handler that
ran, the frame that was begun and the bytes that went out.  `change_of_step` says that every step is
one of these, as long as writing does not fail, and `failed_of_step` what happens when it does.

What becomes of a request in the end is fixed when it is read, whatever happens in between:
`Setup.answer` is the reply and `Setup.outcome` its frame.
-/

namespace RemoteCall.Connection

/-! ## What is fixed about a request -/

/-- The handler of a request, if its target exists. -/
def Setup.handler (setup : Setup) (request : Request) : Option Method :=
  (setup.registry.lookup request.method).toOption

/-- The answer to a request. -/
def Setup.answer (setup : Setup) (request : Request) : Reply :=
  match setup.registry.dispatch request.method request.payload with
  | .replied _ reply => reply
  | .panicked => .panicked request.method

/-- The frame that answers a request, or why there is none. -/
def Setup.outcome (setup : Setup) (request : Request) : Except LinkError Bytes :=
  (setup.answer request).frameOrSubstitute setup.frameLimit request.seq

/-- A request that was just read. -/
def Setup.task (setup : Setup) (request : Request) : Task :=
  match setup.handler request with
  | some method => ⟨request, some method, .waiting⟩
  | none => ⟨request, none, .answered (setup.answer request)⟩

/-- How the answer to a request fares, if it is not cut short: nothing fails, or there is no
frame. -/
def Setup.failure (setup : Setup) (request : Request) : Option LinkError :=
  match setup.outcome request with
  | .ok _ => none
  | .error cause => some cause

/-! ## What is kept of a step -/

/-- The request that a step takes from the connection. -/
def State.incoming (setup : Setup) (s : State) : Label → Option Request
  | .read =>
    match Frame.scan setup.frameLimit s.inbox with
    | .frame body _ =>
      match Envelope.decode body with
      | .ok e => some ⟨e.header.method, e.header.seq, e.payload⟩
      | .error _ => none
    | _ => none
  | _ => none

/-- The task whose handler a step runs. -/
def Label.handled : Label → Option Nat
  | .handle i => some i
  | _ => none

/-- The frame that a step begins to write, and its task. -/
def begun (s' : State) : Label → Option (Nat × Bytes)
  | .takeWriter _ => s'.writing
  | _ => none

/-- The bytes that a step writes. -/
def output (shown : List Effect) : Bytes :=
  shown.flatMap fun
    | .bytes bytes => bytes
    | _ => []

/-- Whether a step makes writing fail. -/
def Label.breaks : Label → Bool
  | .failWrite _ => true
  | _ => false

/-! ## The changes -/

/-- How the connection itself goes on, apart from its requests. -/
inductive Moves (s : State) : Phase → Prop
  | stay : Moves s s.phase
  | begin : s.phase = .starting → Moves s .reading
  | stop (failure : Option LinkError) : s.phase = .reading → Moves s (.draining failure)
  | drain (failure : Option LinkError) : s.phase = .draining failure → s.isDrained = true →
      Moves s (.closing failure)
  | close (failure : Option LinkError) : s.phase = .closing failure → Moves s (.closed failure)
  | finish (failure : Option LinkError) : s.phase = .closed failure → Moves s (.ended failure)

/-- The phase after the answer to an unknown target. -/
def resumed : Option LinkError → Phase
  | none => .reading
  | some cause => .draining (some cause)

/-- What a step can do to the requests, given the request it takes over, the handler that runs, the
frame that is begun and the bytes that go out. -/
inductive Change (setup : Setup) (s : State) :
    Option Request → Option Nat → Option (Nat × Bytes) → Bytes → State → Prop
  | quiet {s' : State} : Moves s s'.phase → s'.tasks = s.tasks → s'.permits = s.permits →
      s'.writing = s.writing → Change setup s none none none [] s'
  | took {s' : State} (request : Request) : s.phase = .reading →
      s'.phase = .busy s.tasks.length → s'.tasks = s.tasks ++ [setup.task request] →
      s'.permits = s.permits → s'.writing = s.writing → Change setup s (some request) none none [] s'
  | acquired (i : Nat) (request : Request) (method : Method) : s.phase = .busy i →
      s.tasks[i]? = some ⟨request, some method, .waiting⟩ → s.permits ≠ 0 →
      Change setup s none none none []
        { s.setStage i .dispatched with permits := s.permits - 1, phase := .reading }
  | ran (i : Nat) (request : Request) (method : Method) (reply : Reply) :
      s.tasks[i]? = some ⟨request, some method, .dispatched⟩ →
      (setup.handler request = some method → reply = setup.answer request) →
      Change setup s none (some i) none [] (s.setStage i (.answered reply))
  | began (i : Nat) (t : Task) (reply : Reply) (frame : Bytes) : s.writing = none →
      s.tasks[i]? = some t → t.stage = .answered reply →
      reply.frameOrSubstitute setup.frameLimit t.request.seq = .ok frame →
      Change setup s none none (some (i, frame)) []
        { s.setStage i .writing with writing := some (i, frame) }
  | gaveUp (i : Nat) (t : Task) (reply : Reply) (cause : LinkError) : s.writing = none →
      s.tasks[i]? = some t → t.stage = .answered reply →
      reply.frameOrSubstitute setup.frameLimit t.request.seq = .error cause →
      Change setup s none none none [] (s.setStage i (.settled (some cause)))
  | wrote (i n : Nat) (left : Bytes) : s.writing = some (i, left) → 0 < n → n < left.length →
      Change setup s none none none (left.take n) { s with writing := some (i, left.drop n) }
  | wroteLast (i : Nat) (left : Bytes) : s.writing = some (i, left) →
      Change setup s none none none left
        { s.setStage i (.settled none) with writing := none }
  | reported (i : Nat) (request : Request) (method : Method) (failure : Option LinkError) :
      s.tasks[i]? = some ⟨request, some method, .settled failure⟩ →
      Change setup s none none none []
        { s.setStage i (.reported failure) with permits := s.permits + 1 }
  | resumed (i : Nat) (request : Request) (failure : Option LinkError) : s.phase = .busy i →
      s.tasks[i]? = some ⟨request, none, .settled failure⟩ →
      Change setup s none none none []
        { s.setStage i (.reported failure) with phase := resumed failure }

variable {setup : Setup} {s s' : State} {shown : List Effect}

/-- What the connection does when it takes over a request. -/
theorem takeOver_eq (setup : Setup) (s : State) (request : Request) :
    (s.takeOver setup request).1 =
        { s with phase := .busy s.tasks.length, tasks := s.tasks ++ [setup.task request] } ∧
      output (s.takeOver setup request).2 = [] := by
  rw [State.takeOver, Setup.task, Setup.handler]
  cases hlookup : setup.registry.lookup request.method with
  | ok method => exact ⟨rfl, rfl⟩
  | error cause =>
    have hanswer : setup.answer request = .failed .dispatch cause.message := by
      rw [Setup.answer, Registry.dispatch, hlookup]
    rw [hanswer]
    exact ⟨rfl, rfl⟩

/-- The state in which a request was taken over. -/
theorem eq_of_takeOver {request : Request} (h : s.takeOver setup request = (s', shown)) :
    s' = { s with phase := .busy s.tasks.length, tasks := s.tasks ++ [setup.task request] } := by
  rw [← (takeOver_eq setup s request).1, h]

theorem change_stopReading (hphase : s.phase = .reading) (cause : LinkError) (rest : Bytes) :
    Change setup s none none none [] (State.stopReading { s with inbox := rest } cause) :=
  .quiet (.stop _ hphase) rfl rfl rfl

theorem output_events (events : List Event) : output (events.map Effect.event) = [] := by
  rw [output, List.flatMap_eq_nil_iff]
  intro effect heffect
  obtain ⟨event, _, rfl⟩ := List.mem_map.mp heffect
  rfl

theorem output_bytes (bytes : Bytes) : output [.bytes bytes] = bytes := by
  rw [output, List.flatMap_cons, List.flatMap_nil, List.append_nil]

/-- The handler that runs is the one that a call in place would find. -/
theorem answer_of_handler {request : Request} {method : Method}
    (h : setup.handler request = some method) :
    setup.answer request = match method.invoke request.method request.payload with
      | .replied _ reply => reply
      | .panicked => .panicked request.method := by
  rw [Setup.handler] at h
  cases hlookup : setup.registry.lookup request.method with
  | error cause =>
    rw [hlookup] at h
    cases h
  | ok found =>
    rw [hlookup] at h
    cases h
    rw [Setup.answer, Registry.dispatch, hlookup]

/-- A request is taken over as it was read. -/
theorem change_took {body rest : Bytes} {e : Envelope} (hphase : s.phase = .reading)
    (hscan : Frame.scan setup.frameLimit s.inbox = .frame body rest)
    (hdecode : Envelope.decode body = .ok e)
    (h : State.takeOver setup { s with inbox := rest } ⟨e.header.method, e.header.seq, e.payload⟩
      = (s', shown)) :
    Change setup s (s.incoming setup .read) none none (output shown) s' := by
  have hincoming : s.incoming setup .read
      = some ⟨e.header.method, e.header.seq, e.payload⟩ := by
    simp only [State.incoming, hscan, hdecode]
  have hstate := eq_of_takeOver h
  have hout := (takeOver_eq setup { s with inbox := rest }
    ⟨e.header.method, e.header.seq, e.payload⟩).2
  rw [h] at hout
  rw [hincoming, hout]
  exact .took _ hphase (by rw [hstate]) (by rw [hstate]) (by rw [hstate]) (by rw [hstate])

/-- **Every step is one of the changes**, as long as writing does not fail. -/
theorem change_of_step {label : Label} (hl : label.breaks = false)
    (h : step setup s label = some (s', shown)) :
    Change setup s (s.incoming setup label) label.handled (begun s' label) (output shown) s' := by
  cases move_of_step h with
  | arrived _ _ => exact .quiet .stay rfl rfl rfl
  | inputOver => exact .quiet .stay rfl rfl rfl
  | shuttingDown => exact .quiet .stay rfl rfl rfl
  | accepted hphase => exact .quiet (.begin hphase) rfl rfl rfl
  | noticed hphase _ => exact .quiet (.stop none hphase) rfl rfl rfl
  | took body rest e hphase hscan hdecode htake => exact change_took hphase hscan hdecode htake
  | badFrame body rest cause hphase hscan hdecode =>
    have hnone : s.incoming setup .read = none := by simp only [State.incoming, hscan, hdecode]
    rw [hnone]
    exact change_stopReading hphase cause rest
  | tooLarge length rest hphase hscan =>
    have hnone : s.incoming setup .read = none := by simp only [State.incoming, hscan]
    rw [hnone]
    exact change_stopReading hphase _ rest
  | noMore hphase hscan _ =>
    have hnone : s.incoming setup .read = none := by simp only [State.incoming, hscan]
    rw [hnone]
    exact change_stopReading hphase .closed s.inbox
  | readFailed cause hphase => exact change_stopReading hphase cause s.inbox
  | acquired i request method hphase htask hpermits =>
    exact .acquired i request method hphase htask hpermits
  | resumed i request hphase htask => exact .resumed i request none hphase htask
  | notResumed i request cause hphase htask => exact .resumed i request (some cause) hphase htask
  | drained failure hphase hdrained => exact .quiet (.drain failure hphase hdrained) rfl rfl rfl
  | outputEnded failure hphase => exact .quiet (.close failure hphase) rfl rfl rfl
  | announcedEnd failure hphase => exact .quiet (.finish failure hphase) rfl rfl rfl
  | ran i request method events reply htask hinvoke =>
    rw [output_events]
    refine .ran i request method reply htask fun hhandler => ?_
    rw [answer_of_handler hhandler, hinvoke]
  | panicked i request method htask hinvoke =>
    refine .ran i request method _ htask fun hhandler => ?_
    rw [answer_of_handler hhandler, hinvoke]
  | began i t reply frame hwriting htask hstage hframe =>
    exact .began i t reply frame hwriting htask hstage hframe
  | gaveUp i t reply cause hwriting htask hstage hframe =>
    -- there is no frame for the answer, so the writer stays free
    have hnone : begun (s.setStage i (.settled (some cause))) (.takeWriter i) = none := hwriting
    rw [hnone]
    exact .gaveUp i t reply cause hwriting htask hstage hframe
  | wrote i n left hwriting hpos hlt =>
    rw [output_bytes]
    exact .wrote i n left hwriting hpos hlt
  | wroteLast i n left hwriting =>
    rw [output_bytes]
    exact .wroteLast i left hwriting
  | writeFailed i left cause _ => cases hl
  | reported i nanos request method failure htask =>
    exact .reported i request method failure htask

/-- When writing fails, the answer is given up with that failure, and the writer is free again. -/
theorem failed_of_step {label : Label} (hl : label.breaks = true)
    (h : step setup s label = some (s', shown)) :
    ∃ i left cause, label = .failWrite cause ∧ s.writing = some (i, left) ∧
      s' = { s.setStage i (.settled (some cause)) with writing := none } ∧ shown = [] := by
  cases move_of_step h with
  | writeFailed i left cause hwriting => exact ⟨i, left, cause, rfl, hwriting, rfl, rfl⟩
  | _ => cases hl

end RemoteCall.Connection
