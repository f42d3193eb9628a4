import RemoteCall.Server.Connection

/-!
# What a step of a connection does

`Move` lists everything that a step of a connection can do, with what it asks for, the state after it
and what it shows; `move_of_step` says that there is nothing else.  What is proved about steps is
proved by cases on `Move`.
-/

namespace RemoteCall.Connection

/-- What a step with this label can do. -/
inductive Move (setup : Setup) (s : State) : Label → State → List Effect → Prop
  -- what the peer and the server do
  | arrived (bytes : Bytes) : s.inputEnded = false →
      Move setup s (.arrive bytes) { s with inbox := s.inbox ++ bytes } []
  | inputOver : Move setup s .endInput { s with inputEnded := true } []
  | shuttingDown : Move setup s .shutdown { s with shutdown := true } []
  -- what the connection itself does
  | accepted : s.phase = .starting →
      Move setup s .announce { s with phase := .reading } [.event (.accepted setup.peer)]
  | noticed : s.phase = .reading → s.shutdown = true → Move setup s .notice (s.stop none) []
  | took {s' : State} {shown : List Effect} (body rest : Bytes) (e : Envelope) :
      s.phase = .reading → Frame.scan setup.frameLimit s.inbox = .frame body rest →
      Envelope.decode body = .ok e →
      State.takeOver setup { s with inbox := rest } ⟨e.header.method, e.header.seq, e.payload⟩
        = (s', shown) →
      Move setup s .read s' shown
  | badFrame (body rest : Bytes) (cause : LinkError) : s.phase = .reading →
      Frame.scan setup.frameLimit s.inbox = .frame body rest →
      Envelope.decode body = .error cause →
      Move setup s .read (State.stopReading { s with inbox := rest } cause) []
  | tooLarge (length : Nat) (rest : Bytes) : s.phase = .reading →
      Frame.scan setup.frameLimit s.inbox = .tooLarge length rest →
      Move setup s .read
        (State.stopReading { s with inbox := rest } (Frame.overLimit length setup.frameLimit)) []
  | noMore : s.phase = .reading → Frame.scan setup.frameLimit s.inbox = .short →
      s.inputEnded = true → Move setup s .read (s.stopReading .closed) []
  | readFailed (cause : LinkError) : s.phase = .reading →
      Move setup s (.failRead cause) (s.stopReading cause) []
  | acquired (i : Nat) (request : Request) (method : Method) : s.phase = .busy i →
      s.tasks[i]? = some ⟨request, some method, .waiting⟩ → s.permits ≠ 0 →
      Move setup s .acquire
        { s.setStage i .dispatched with permits := s.permits - 1, phase := .reading } []
  | resumed (i : Nat) (request : Request) : s.phase = .busy i →
      s.tasks[i]? = some ⟨request, none, .settled none⟩ →
      Move setup s .resume { s.setStage i (.reported none) with phase := .reading } []
  | notResumed (i : Nat) (request : Request) (cause : LinkError) : s.phase = .busy i →
      s.tasks[i]? = some ⟨request, none, .settled (some cause)⟩ →
      Move setup s .resume ((s.setStage i (.reported (some cause))).stop (some cause)) []
  | drained (failure : Option LinkError) : s.phase = .draining failure → s.isDrained = true →
      Move setup s .drain { s with phase := .closing failure } []
  | outputEnded (failure : Option LinkError) : s.phase = .closing failure →
      Move setup s .endOutput { s with phase := .closed failure } [.endOutput]
  | announcedEnd (failure : Option LinkError) : s.phase = .closed failure →
      Move setup s .announceEnd { s with phase := .ended failure }
        [.event (.ended setup.peer (failure.map LinkError.message))]
  -- what tasks do
  | ran (i : Nat) (request : Request) (method : Method) (events : List Event) (reply : Reply) :
      s.tasks[i]? = some ⟨request, some method, .dispatched⟩ →
      method.invoke request.method request.payload = .replied events reply →
      Move setup s (.handle i) (s.setStage i (.answered reply)) (events.map .event)
  | panicked (i : Nat) (request : Request) (method : Method) :
      s.tasks[i]? = some ⟨request, some method, .dispatched⟩ →
      method.invoke request.method request.payload = .panicked →
      Move setup s (.handle i) (s.setStage i (.answered (.panicked request.method))) []
  | began (i : Nat) (t : Task) (reply : Reply) (frame : Bytes) : s.writing = none →
      s.tasks[i]? = some t → t.stage = .answered reply →
      reply.frameOrSubstitute setup.frameLimit t.request.seq = .ok frame →
      Move setup s (.takeWriter i) { s.setStage i .writing with writing := some (i, frame) } []
  | gaveUp (i : Nat) (t : Task) (reply : Reply) (cause : LinkError) : s.writing = none →
      s.tasks[i]? = some t → t.stage = .answered reply →
      reply.frameOrSubstitute setup.frameLimit t.request.seq = .error cause →
      Move setup s (.takeWriter i) (s.setStage i (.settled (some cause))) []
  | wrote (i n : Nat) (left : Bytes) : s.writing = some (i, left) → 0 < n → n < left.length →
      Move setup s (.write n) { s with writing := some (i, left.drop n) } [.bytes (left.take n)]
  | wroteLast (i n : Nat) (left : Bytes) : s.writing = some (i, left) →
      Move setup s (.write n) { s.setStage i (.settled none) with writing := none } [.bytes left]
  | writeFailed (i : Nat) (left : Bytes) (cause : LinkError) : s.writing = some (i, left) →
      Move setup s (.failWrite cause)
        { s.setStage i (.settled (some cause)) with writing := none } []
  | reported (i nanos : Nat) (request : Request) (method : Method)
      (failure : Option LinkError) :
      s.tasks[i]? = some ⟨request, some method, .settled failure⟩ →
      Move setup s (.report i nanos)
        { s.setStage i (.reported failure) with permits := s.permits + 1 }
        [.event (State.outcomeEvent request nanos failure)]

variable {setup : Setup} {s s' : State} {shown : List Effect}

theorem move_read (hphase : s.phase = .reading) (h : s.read setup = some (s', shown)) :
    Move setup s .read s' shown := by
  rw [State.read] at h
  split at h
  · next body rest hscan =>
    simp only at h
    split at h
    · next header payload hdecode =>
      exact .took body rest ⟨header, payload⟩ hphase hscan hdecode (Option.some.inj h)
    · next cause hdecode =>
      cases h
      exact .badFrame body rest cause hphase hscan hdecode
  · next length rest hscan =>
    cases h
    exact .tooLarge length rest hphase hscan
  · next hscan =>
    split at h
    · next hended =>
      cases h
      exact .noMore hphase hscan hended
    · cases h

theorem move_acquire (h : s.acquire = some (s', shown)) : Move setup s .acquire s' shown := by
  unfold State.acquire at h
  split at h
  · next i hphase =>
    split at h
    · next request method htask =>
      split at h
      · cases h
      · next hpermits =>
        cases h
        exact .acquired i request method hphase htask hpermits
    · cases h
  · cases h

theorem move_resume (h : s.resume = some (s', shown)) : Move setup s .resume s' shown := by
  unfold State.resume at h
  split at h
  · next i hphase =>
    split at h
    · next request htask =>
      cases h
      exact .resumed i request hphase htask
    · next request cause htask =>
      cases h
      exact .notResumed i request cause hphase htask
    · cases h
  · cases h

theorem move_handle {i : Nat} (h : s.handle i = some (s', shown)) :
    Move setup s (.handle i) s' shown := by
  unfold State.handle at h
  split at h
  · next request method htask =>
    split at h
    · next events reply hinvoke =>
      cases h
      exact .ran i request method events reply htask hinvoke
    · next hinvoke =>
      cases h
      exact .panicked i request method htask hinvoke
  · cases h

theorem move_takeWriter {i : Nat} (h : s.takeWriter setup i = some (s', shown)) :
    Move setup s (.takeWriter i) s' shown := by
  unfold State.takeWriter at h
  split at h
  · next request handler reply hwriting htask =>
    split at h
    · next frame hframe =>
      cases h
      exact .began i _ reply frame hwriting htask rfl hframe
    · next cause hframe =>
      cases h
      exact .gaveUp i _ reply cause hwriting htask rfl hframe
  · cases h

theorem move_write {n : Nat} (h : s.write n = some (s', shown)) :
    Move setup s (.write n) s' shown := by
  unfold State.write at h
  split at h
  · next i left hwriting =>
    split at h
    · cases h
    · next hn =>
      split at h
      · cases h
        exact .wroteLast i n left hwriting
      · next hne =>
        cases h
        exact .wrote i n left hwriting (by omega) (by omega)
  · cases h

theorem move_failWrite {cause : LinkError} (h : s.failWrite cause = some (s', shown)) :
    Move setup s (.failWrite cause) s' shown := by
  unfold State.failWrite at h
  split at h
  · next i left hwriting =>
    cases h
    exact .writeFailed i left cause hwriting
  · cases h

theorem move_report {i nanos : Nat} (h : s.report i nanos = some (s', shown)) :
    Move setup s (.report i nanos) s' shown := by
  unfold State.report at h
  split at h
  · next request method failure htask =>
    cases h
    exact .reported i nanos request method failure htask
  · cases h

/-- **Every step is one of the moves.** -/
theorem move_of_step {label : Label} (h : step setup s label = some (s', shown)) :
    Move setup s label s' shown := by
  cases label with
  | arrive bytes =>
    rw [step] at h
    split at h
    · cases h
    · next hinput =>
      cases h
      exact .arrived bytes (Bool.eq_false_iff.mpr hinput)
  | endInput =>
    cases h
    exact .inputOver
  | shutdown =>
    cases h
    exact .shuttingDown
  | announce =>
    rw [step] at h
    split at h
    · next hphase =>
      cases h
      exact .accepted hphase
    · cases h
  | notice =>
    rw [step] at h
    split at h
    · next hphase =>
      split at h
      · next hshutdown =>
        cases h
        exact .noticed hphase hshutdown
      · cases h
    · cases h
  | read =>
    rw [step] at h
    split at h
    · next hphase => exact move_read hphase h
    · cases h
  | failRead cause =>
    rw [step] at h
    split at h
    · next hphase =>
      cases h
      exact .readFailed cause hphase
    · cases h
  | acquire => exact move_acquire h
  | handle i => exact move_handle h
  | takeWriter i => exact move_takeWriter h
  | write n => exact move_write h
  | failWrite cause => exact move_failWrite h
  | report i nanos => exact move_report h
  | resume => exact move_resume h
  | drain =>
    rw [step] at h
    split at h
    · next failure hphase =>
      split at h
      · next hdrained =>
        cases h
        exact .drained failure hphase hdrained
      · cases h
    · cases h
  | endOutput =>
    rw [step] at h
    split at h
    · next failure hphase =>
      cases h
      exact .outputEnded failure hphase
    · cases h
  | announceEnd =>
    rw [step] at h
    split at h
    · next failure hphase =>
      cases h
      exact .announcedEnd failure hphase
    · cases h

end RemoteCall.Connection
