import RemoteCall.Client.Machine

/-!
# What a step of a client does

`Move` lists everything that a step of a client can do: one case for each way in which one of the
parties can go on, with what it asks for, the state after it and what it shows.  `move_of_step` says
that there is nothing else.  What is proved about steps is proved by cases on `Move`, so no other
proof has to look into the functions of the machine.
-/

namespace RemoteCall.Client

/-- What a step with this label can do. -/
inductive Move (setup : Setup) (s : State) : Label → State → List Effect → Prop
  -- what callers do
  | began (method : String) (payload : Bytes) (keepsClient : Bool) : s.pending.shut = false →
      Move setup s (.call method payload keepsClient) { s with
        pending := { s.pending with
          nextSeq := s.pending.nextSeq + 1
          entries := s.pending.entries ++ [⟨s.pending.nextSeq, s.calls.length⟩] }
        calls := s.calls ++
          [⟨method, payload, keepsClient, some s.pending.nextSeq, .registered, none⟩] } []
  | refused (method : String) (payload : Bytes) (keepsClient : Bool) : s.pending.shut = true →
      Move setup s (.call method payload keepsClient) { s with
        calls := s.calls ++ [⟨method, payload, keepsClient, none, .failed .closed, none⟩] } []
  | framed (i : Nat) (c : Call) (seq : Nat) (frame : Bytes) : s.calls[i]? = some c →
      c.stage = .registered → c.seq = some seq →
      Envelope.encode (.request c.method (UInt64.ofNat seq)) c.payload = .ok frame →
      Move setup s (.frame i) (s.setStage i (.queueing frame))
        [.event (.issued c.method (UInt64.ofNat seq))]
  | notFramed (i : Nat) (c : Call) (seq : Nat) (cause : LinkError) : s.calls[i]? = some c →
      c.stage = .registered → c.seq = some seq →
      Envelope.encode (.request c.method (UInt64.ofNat seq)) c.payload = .error cause →
      Move setup s (.frame i) (s.fail i c (.link cause)) []
  | submitted (i : Nat) (c : Call) (seq : Nat) (frame : Bytes) : s.calls[i]? = some c →
      c.stage = .queueing frame → c.seq = some seq → s.outbox.isOpen = true →
      s.outbox.items.length < outboxCapacity →
      Move setup s (.submit i) ({ s with
        outbox := { s.outbox with items := s.outbox.items ++ [Item.request seq frame] }
        }.setStage i .waiting) []
  | notSubmitted (i : Nat) (c : Call) (seq : Nat) (frame : Bytes) : s.calls[i]? = some c →
      c.stage = .queueing frame → c.seq = some seq → s.outbox.isOpen = false →
      Move setup s (.submit i) (s.fail i c .closed) []
  | collected (i : Nat) (c : Call) (outcome : Outcome) : s.calls[i]? = some c →
      c.stage = .waiting → c.slot = some outcome →
      Move setup s (.collect i) (s.setStage i (.finished outcome)) []
  | abandoned (i : Nat) (c : Call) : s.calls[i]? = some c → c.isOpen = true →
      c.stage ≠ .registered →
      Move setup s (.abandon i) ((s.forget c).setStage i .abandoned) []
  -- what the peer does
  | arrived (bytes : Bytes) : s.inputEnded = false →
      Move setup s (.arrive bytes) { s with inbox := s.inbox ++ bytes } []
  | inputOver : Move setup s .endInput { s with inputEnded := true } []
  -- what the reader does
  | stray (body rest : Bytes) (e : Envelope) : s.isReading = true →
      Frame.scan setup.frameLimit s.inbox = .frame body rest → Envelope.decode body = .ok e →
      s.pending.find e.header.seq.toNat = none →
      Move setup s .receive { s with inbox := rest } [.event (.discarded e.header.seq)]
  | answered (body rest : Bytes) (e : Envelope) (entry : Entry) : s.isReading = true →
      Frame.scan setup.frameLimit s.inbox = .frame body rest → Envelope.decode body = .ok e →
      s.pending.find e.header.seq.toNat = some entry →
      Move setup s .receive { s with
        inbox := rest
        pending := s.pending.remove entry.seq
        reader := { s.reader with todo := [.settle entry.call (State.outcomeOf e)] } } []
  | badFrame (body rest : Bytes) (cause : LinkError) : s.isReading = true →
      Frame.scan setup.frameLimit s.inbox = .frame body rest →
      Envelope.decode body = .error cause →
      Move setup s .receive (State.failReader setup { s with inbox := rest } cause) []
  | tooLarge (length : Nat) (rest : Bytes) : s.isReading = true →
      Frame.scan setup.frameLimit s.inbox = .tooLarge length rest →
      Move setup s .receive (State.failReader setup { s with inbox := rest }
        (Frame.overLimit length setup.frameLimit)) []
  | noMore : s.isReading = true → Frame.scan setup.frameLimit s.inbox = .short →
      s.inputEnded = true → Move setup s .receive (s.failReader setup .closed) []
  | readFailed (cause : LinkError) : s.isReading = true →
      Move setup s (.failReceive cause) (s.failReader setup cause) []
  | readerDid {s' : State} {shown : List Effect} (act : Act) (todo : List Act) :
      s.reader.todo = act :: todo →
      { s with reader := { s.reader with todo := todo } }.perform act = (s', shown) →
      Move setup s .readerAct s' shown
  | readerStopped : s.isReading = true → s.reader.abort = true →
      Move setup s .stopReader { s with reader := { s.reader with ended := true } } []
  -- what the writer does
  | dequeued (seq : Nat) (body frame : Bytes) (items : List Item) : s.writer = ⟨[], .idle⟩ →
      s.outbox.items = .request seq body :: items →
      Frame.encode? setup.frameLimit body = .ok frame →
      Move setup s .dequeue { s with
        outbox := { s.outbox with items := items }
        writer := ⟨[], .writing frame⟩ } []
  | oversizedStray (seq : Nat) (body : Bytes) (items : List Item) (cause : LinkError) :
      s.writer = ⟨[], .idle⟩ → s.outbox.items = .request seq body :: items →
      Frame.encode? setup.frameLimit body = .error cause → s.pending.find seq = none →
      Move setup s .dequeue { s with outbox := { s.outbox with items := items } } []
  | oversized (seq : Nat) (body : Bytes) (items : List Item) (cause : LinkError) (entry : Entry) :
      s.writer = ⟨[], .idle⟩ → s.outbox.items = .request seq body :: items →
      Frame.encode? setup.frameLimit body = .error cause → s.pending.find seq = some entry →
      Move setup s .dequeue { s with
        outbox := { s.outbox with items := items }
        pending := s.pending.remove seq
        writer := ⟨[.settle entry.call (.error (.link cause))], .idle⟩ } []
  | toldToClose (items : List Item) : s.writer = ⟨[], .idle⟩ → s.outbox.items = .close :: items →
      Move setup s .dequeue { s with
        outbox := { s.outbox with items := items }
        writer := ⟨[], .closing⟩ } []
  | leftAlone : s.writer = ⟨[], .idle⟩ → s.outbox.items = [] → s.dropped = some [] →
      Move setup s .dequeue { s with writer := ⟨[], .closing⟩ } []
  | wrote (n : Nat) (todo : List Act) (left : Bytes) : s.writer = ⟨todo, .writing left⟩ →
      left.drop n ≠ [] →
      Move setup s (.write n) { s with writer := ⟨todo, .writing (left.drop n)⟩ }
        [.bytes (left.take n)]
  | wroteLast (n : Nat) (todo : List Act) (left : Bytes) : s.writer = ⟨todo, .writing left⟩ →
      Move setup s (.write n) { s with writer := ⟨todo, .idle⟩ } [.bytes left]
  | writeFailed (cause : LinkError) (todo : List Act) (left : Bytes) :
      s.writer = ⟨todo, .writing left⟩ →
      Move setup s (.failWrite cause)
        { s.shutDown with writer := ⟨s.failureActs setup cause, .closing⟩ } []
  | writerDid {s' : State} {shown : List Effect} (act : Act) (todo : List Act) :
      s.writer.todo = act :: todo →
      { s with writer := { s.writer with todo := todo } }.perform act = (s', shown) →
      Move setup s .writerAct s' shown
  | outputEnded : s.writer = ⟨[], .closing⟩ →
      Move setup s .endOutput { s with writer := ⟨[], .closed⟩ } [.endOutput]
  | retired : s.writer = ⟨[], .closed⟩ →
      Move setup s .retire { s with writer := ⟨[], .ended⟩, outbox := ⟨[], false⟩ } []
  -- what closers do
  | closed : s.held = true → Move setup s .close (s.close setup) []
  | closerDid {s' : State} {shown : List Effect} (k : Nat) (act : Act) (todo : List Act)
      (stage : CloserStage) : s.closers[k]? = some ⟨act :: todo, stage⟩ →
      (s.setCloser k ⟨todo, stage⟩).perform act = (s', shown) →
      Move setup s (.closerAct k) s' shown
  | readerAborted (k : Nat) : s.closers[k]? = some ⟨[], .settling⟩ →
      Move setup s (.abortReader k)
        { s.setCloser k ⟨[], .queueing⟩ with reader := { s.reader with abort := true } } []
  | closeSubmitted (k : Nat) (todo : List Act) : s.closers[k]? = some ⟨todo, .queueing⟩ →
      s.outbox.isOpen = true → s.outbox.items.length < outboxCapacity →
      Move setup s (.submitClose k) ({ s with
        outbox := { s.outbox with items := s.outbox.items ++ [Item.close] }
        }.setCloser k ⟨todo, .waiting⟩) []
  | closeNotSubmitted (k : Nat) (todo : List Act) : s.closers[k]? = some ⟨todo, .queueing⟩ →
      s.outbox.isOpen = false →
      Move setup s (.submitClose k) (s.setCloser k ⟨todo, .returned⟩) []
  | closeReturned (k : Nat) (todo : List Act) : s.closers[k]? = some ⟨todo, .waiting⟩ →
      s.writer.phase = .ended →
      Move setup s (.returnClose k) (s.setCloser k ⟨todo, .returned⟩) []
  -- what users do
  | released : s.held = true → Move setup s .release { s with held := false } []
  | dropped : s.isUsed = false → s.dropped = none →
      Move setup s .drop { s.shutDown with
        dropped := some (s.settleAll (.error .closed))
        reader := { s.reader with abort := true } } []
  | dropperDid {s' : State} {shown : List Effect} (act : Act) (todo : List Act) :
      s.dropped = some (act :: todo) →
      { s with dropped := some todo }.perform act = (s', shown) →
      Move setup s .dropperAct s' shown

variable {setup : Setup} {s s' : State} {shown : List Effect}

theorem move_call (method : String) (payload : Bytes) (keepsClient : Bool) :
    Move setup s (.call method payload keepsClient) (s.call method payload keepsClient) [] := by
  rw [State.call, Pending.register]
  by_cases hshut : s.pending.shut = true
  · rw [if_pos hshut]
    exact .refused method payload keepsClient hshut
  · rw [if_neg hshut]
    exact .began method payload keepsClient (Bool.eq_false_iff.mpr hshut)

theorem move_frame {i : Nat} (h : s.frame i = some (s', shown)) :
    Move setup s (.frame i) s' shown := by
  unfold State.frame at h
  split at h
  · next c hi =>
    split at h
    · next seq hstage hseq =>
      simp only at h
      split at h
      · next cause hencode =>
        cases h
        exact .notFramed i c seq cause hi hstage hseq hencode
      · next frame hencode =>
        cases h
        exact .framed i c seq frame hi hstage hseq hencode
    · cases h
  · cases h

theorem enqueue_eq_some {item : Item} (h : s.enqueue item = some s') :
    s.outbox.items.length < outboxCapacity ∧
      s' = { s with outbox := { s.outbox with items := s.outbox.items ++ [item] } } := by
  unfold State.enqueue at h
  split at h
  · next hroom =>
    cases h
    exact ⟨hroom, rfl⟩
  · cases h

theorem move_submit {i : Nat} (h : s.submit i = some (s', shown)) :
    Move setup s (.submit i) s' shown := by
  unfold State.submit at h
  split at h
  · next c hi =>
    split at h
    · next frame seq hstage hseq =>
      split at h
      · next hopen =>
        obtain ⟨t, ht, heq⟩ := Option.map_eq_some_iff.mp h
        obtain ⟨hroom, rfl⟩ := enqueue_eq_some ht
        cases heq
        exact .submitted i c seq frame hi hstage hseq hopen hroom
      · next hopen =>
        cases h
        exact .notSubmitted i c seq frame hi hstage hseq (Bool.eq_false_iff.mpr hopen)
    · cases h
  · cases h

theorem move_collect {i : Nat} (h : s.collect i = some (s', shown)) :
    Move setup s (.collect i) s' shown := by
  unfold State.collect at h
  split at h
  · next c hi =>
    split at h
    · next outcome hstage hslot =>
      cases h
      exact .collected i c outcome hi hstage hslot
    · cases h
  · cases h

theorem move_abandon {i : Nat} (h : s.abandon i = some (s', shown)) :
    Move setup s (.abandon i) s' shown := by
  unfold State.abandon at h
  split at h
  · next c hi =>
    split at h
    · next hstage =>
      cases h
      exact .abandoned i c hi (by rw [Call.isOpen, hstage]) (by simp [hstage])
    · next hstage =>
      cases h
      exact .abandoned i c hi (by rw [Call.isOpen, hstage]) (by simp [hstage])
    · cases h
  · cases h

theorem move_receive (hread : s.isReading = true) (h : s.receive setup = some (s', shown)) :
    Move setup s .receive s' shown := by
  rw [State.receive] at h
  split at h
  · next body rest hscan =>
    simp only at h
    split at h
    · next e hdecode =>
      have hdeliver : State.deliver { s with inbox := rest } e = (s', shown) := Option.some.inj h
      unfold State.deliver at hdeliver
      split at hdeliver
      · next hfind =>
        cases hdeliver
        exact .stray body rest e hread hscan hdecode hfind
      · next entry hfind =>
        cases hdeliver
        exact .answered body rest e entry hread hscan hdecode hfind
    · next cause hdecode =>
      cases h
      exact .badFrame body rest cause hread hscan hdecode
  · next length rest hscan =>
    cases h
    exact .tooLarge length rest hread hscan
  · next hscan =>
    split at h
    · next hended =>
      cases h
      exact .noMore hread hscan hended
    · cases h

theorem move_dequeue (h : s.dequeue setup = some (s', shown)) :
    Move setup s .dequeue s' shown := by
  unfold State.dequeue at h
  split at h
  · next hwriter =>
    split at h
    · next seq body items hitems =>
      simp only at h
      split at h
      · next frame hframe =>
        cases h
        exact .dequeued seq body frame items hwriter hitems hframe
      · next cause hframe =>
        split at h
        · next hfind =>
          cases h
          exact .oversizedStray seq body items cause hwriter hitems hframe hfind
        · next entry hfind =>
          cases h
          exact .oversized seq body items cause entry hwriter hitems hframe hfind
    · next items hitems =>
      cases h
      exact .toldToClose items hwriter hitems
    · next hitems =>
      split at h
      · next hdropped =>
        cases h
        exact .leftAlone hwriter hitems hdropped
      · cases h
  · cases h

theorem move_write {n : Nat} (h : s.write n = some (s', shown)) :
    Move setup s (.write n) s' shown := by
  unfold State.write at h
  split at h
  · next todo left hwriter =>
    split at h
    · cases h
    · split at h
      · cases h
        exact .wroteLast n todo left hwriter
      · next hne =>
        cases h
        exact .wrote n todo left hwriter hne
  · cases h

theorem move_failWrite {cause : LinkError} (h : s.failWrite setup cause = some (s', shown)) :
    Move setup s (.failWrite cause) s' shown := by
  unfold State.failWrite at h
  split at h
  · next todo left hwriter =>
    cases h
    exact .writeFailed cause todo left hwriter
  · cases h

theorem move_submitClose {k : Nat} (h : s.submitClose k = some (s', shown)) :
    Move setup s (.submitClose k) s' shown := by
  unfold State.submitClose at h
  split at h
  · next todo hk =>
    split at h
    · next hopen =>
      obtain ⟨t, ht, heq⟩ := Option.map_eq_some_iff.mp h
      obtain ⟨hroom, rfl⟩ := enqueue_eq_some ht
      cases heq
      exact .closeSubmitted k todo hk hopen hroom
    · next hopen =>
      cases h
      exact .closeNotSubmitted k todo hk (Bool.eq_false_iff.mpr hopen)
  · cases h

/-- **Every step is one of the moves.** -/
theorem move_of_step {label : Label} (h : step setup s label = some (s', shown)) :
    Move setup s label s' shown := by
  cases label with
  | call method payload keepsClient =>
    rw [step] at h
    split at h
    · cases h
      exact move_call method payload keepsClient
    · cases h
  | frame i => exact move_frame h
  | submit i => exact move_submit h
  | collect i => exact move_collect h
  | abandon i => exact move_abandon h
  | arrive bytes =>
    rw [step] at h
    split at h
    · cases h
    · next hinput =>
      cases h
      exact .arrived bytes (Bool.eq_false_iff.mpr hinput)
  | endInput =>
    cases h
    exact .inputOver
  | receive =>
    rw [step] at h
    split at h
    · next hread => exact move_receive hread h
    · cases h
  | failReceive cause =>
    rw [step] at h
    split at h
    · next hread =>
      cases h
      exact .readFailed cause hread
    · cases h
  | readerAct =>
    rw [step] at h
    split at h
    · next act todo htodo => exact .readerDid act todo htodo (Option.some.inj h)
    · cases h
  | stopReader =>
    rw [step] at h
    split at h
    · next hstops =>
      rw [Bool.and_eq_true] at hstops
      cases h
      exact .readerStopped hstops.1 hstops.2
    · cases h
  | dequeue => exact move_dequeue h
  | write n => exact move_write h
  | failWrite cause => exact move_failWrite h
  | writerAct =>
    rw [step] at h
    split at h
    · next act todo htodo => exact .writerDid act todo htodo (Option.some.inj h)
    · cases h
  | endOutput =>
    rw [step] at h
    split at h
    · next hwriter =>
      cases h
      exact .outputEnded hwriter
    · cases h
  | retire =>
    rw [step] at h
    split at h
    · next hwriter =>
      cases h
      exact .retired hwriter
    · cases h
  | close =>
    rw [step] at h
    split at h
    · next hheld =>
      cases h
      exact .closed hheld
    · cases h
  | closerAct k =>
    rw [step] at h
    split at h
    · next act todo stage hk => exact .closerDid k act todo stage hk (Option.some.inj h)
    · cases h
  | abortReader k =>
    rw [step] at h
    split at h
    · next hk =>
      cases h
      exact .readerAborted k hk
    · cases h
  | submitClose k => exact move_submitClose h
  | returnClose k =>
    rw [step] at h
    split at h
    · next todo hk hphase =>
      cases h
      exact .closeReturned k todo hk hphase
    · cases h
  | release =>
    rw [step] at h
    split at h
    · next hheld =>
      cases h
      exact .released hheld
    · cases h
  | drop =>
    rw [step] at h
    split at h
    · cases h
    · next hused =>
      simp only [Bool.or_eq_true, not_or, Bool.not_eq_true, Option.isSome_eq_false_iff] at hused
      cases h
      exact .dropped hused.1 (Option.isNone_iff_eq_none.mp hused.2)
  | dropperAct =>
    rw [step] at h
    split at h
    · next act todo htodo => exact .dropperDid act todo htodo (Option.some.inj h)
    · cases h

end RemoteCall.Client
