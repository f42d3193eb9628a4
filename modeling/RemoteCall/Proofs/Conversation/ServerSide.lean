import RemoteCall.Proofs.Conversation.Travel

/-!
# The daily work of a connection

A connection does its daily work while reading and writing do not fail and the server does not shut
down.  If all that arrives is well-formed and every answer has a frame (`Smooth`), every step of that
work means one of three things to the pipes: nothing but bytes that went out, or a request was read,
or a frame was begun (`Advance`, `goes_of_step`).  Between the two a request is one that the
connection owes an answer (`State.unbegun`).

A connection that cannot go on owes nothing (`rest_of_stuck`).  A task that waits for a permit gets
one, for otherwise all permits would be with tasks that can go on.
-/

namespace RemoteCall.Connection

/-! ## What is seen from outside -/

/-- Whether the frame of an answer was begun. -/
def Stage.isBegun : Stage → Bool
  | .writing => true
  | .settled _ => true
  | .reported _ => true
  | _ => false

/-- All requests that were read. -/
def State.requests (s : State) : List Request :=
  s.tasks.map Task.request

/-- A task's request, if the frame of its answer was not begun. -/
def Task.unbegun? (t : Task) : Option Request :=
  if t.stage.isBegun then none else some t.request

/-- The requests that were read and of whose answers nothing went out. -/
def State.unbegun (s : State) : List Request :=
  s.tasks.filterMap Task.unbegun?

/-- Whether a step belongs to the daily work.  The others come from the peer, from a failing
connection, or from a server that shuts down. -/
def Label.isRoutine : Label → Bool
  | .arrive _ => false
  | .endInput => false
  | .shutdown => false
  | .failRead _ => false
  | .failWrite _ => false
  | _ => true

/-! ## The invariant -/

/-- Whether the connection reads on, if it has the chance. -/
def Phase.isOpen : Phase → Bool
  | .starting => true
  | .reading => true
  | .busy _ => true
  | _ => false

/-- The connection has not begun to come to its end. -/
structure Lasting (s : State) : Prop where
  phase : s.phase.isOpen = true
  inputEnded : s.inputEnded = false
  shutdown : s.shutdown = false
  writing : ∀ i left, s.writing = some (i, left) → left ≠ []

/-- Some books are right, and phase and tasks are in step. -/
structure Sound (setup : Setup) (permits : Nat) (s : State) : Prop where
  books : ∃ r, Books setup r s
  phased : Phased permits s

/-- What the connection meets is as it should be: requests are well-formed, and their answers have
frames. -/
structure Smooth (setup : Setup) (s : State) : Prop where
  outcome : ∀ r ∈ s.requests, setup.outcome r = .ok (Frame.encode (setup.response r))
  inbox : Frame.scan setup.frameLimit s.inbox = .short ∨
    ∃ body rest e, Frame.scan setup.frameLimit s.inbox = .frame body rest ∧
      Envelope.decode body = .ok e

/-- What a step of the connection means to the pipes, with the bytes that it writes. -/
inductive Advance (setup : Setup) (s : State) : Bytes → State → Prop
  /-- Bytes may have gone out, and no more. -/
  | idle {bytes : Bytes} {s' : State} : s'.requests = s.requests → s'.unbegun = s.unbegun →
      s'.inbox = s.inbox → s.unwritten = bytes ++ s'.unwritten → Advance setup s bytes s'
  /-- A request was read. -/
  | took {s' : State} (body : Bytes) (e : Envelope) :
      Frame.scan setup.frameLimit s.inbox = .frame body s'.inbox → Envelope.decode body = .ok e →
      s'.requests = s.requests ++ [⟨e.header.method, e.header.seq, e.payload⟩] →
      s'.unbegun = s.unbegun ++ [⟨e.header.method, e.header.seq, e.payload⟩] →
      s'.unwritten = s.unwritten → Advance setup s [] s'
  /-- The frame of an answer was begun. -/
  | began {s' : State} (r : Request) : s'.requests = s.requests →
      s.unbegun.Perm (r :: s'.unbegun) → s'.inbox = s.inbox → s.unwritten = [] →
      s'.unwritten = Frame.encode (setup.response r) → Advance setup s [] s'

variable {setup : Setup} {s s' : State} {shown : List Effect} {permits : Nat}

theorem lasting_start (permits : Nat) : Lasting (start permits) where
  phase := rfl
  inputEnded := rfl
  shutdown := rfl
  writing := fun _ _ h => by cases h

theorem sound_start (setup : Setup) (permits : Nat) : Sound setup permits (start permits) where
  books := ⟨_, books_start setup permits⟩
  phased := phased_start permits

/-! ## Steps -/

/-- What every step of the daily work leaves as it is, apart from reading. -/
structure Quiet (s s' : State) (shown : List Effect) : Prop where
  phase : s'.phase.isOpen = true
  inputEnded : s'.inputEnded = s.inputEnded
  shutdown : s'.shutdown = s.shutdown
  inbox : s'.inbox = s.inbox
  effects : .endOutput ∉ shown

theorem quiet_of_step {label : Label} (h : Lasting s)
    (hfine : ∀ {i : Nat} {t : Task} {cause : LinkError}, s.tasks[i]? = some t →
      t.stage ≠ .settled (some cause))
    (hl : label.isRoutine = true) (hread : label ≠ .read)
    (hstep : step setup s label = some (s', shown)) : Quiet s s' shown := by
  have hopen := h.phase
  cases move_of_step hstep with
  | accepted _ => exact ⟨rfl, rfl, rfl, rfl, by simp⟩
  | noticed _ hshutdown => cases h.shutdown.symm.trans hshutdown
  | took _ _ _ _ _ _ _ => exact absurd rfl hread
  | badFrame _ _ _ _ _ _ => exact absurd rfl hread
  | tooLarge _ _ _ _ => exact absurd rfl hread
  | noMore _ _ _ => exact absurd rfl hread
  | acquired _ _ _ _ _ _ => exact ⟨rfl, rfl, rfl, rfl, List.not_mem_nil⟩
  | resumed _ _ _ _ => exact ⟨rfl, rfl, rfl, rfl, List.not_mem_nil⟩
  | notResumed _ _ _ _ htask =>
    -- an answer that was given up would stop the reading
    exact absurd rfl (hfine htask)
  | drained _ hphase _ =>
    rw [hphase] at hopen
    cases hopen
  | outputEnded _ hphase =>
    rw [hphase] at hopen
    cases hopen
  | announcedEnd _ hphase =>
    rw [hphase] at hopen
    cases hopen
  | ran _ _ _ _ _ _ _ => exact ⟨hopen, rfl, rfl, rfl, by simp⟩
  | panicked _ _ _ _ _ => exact ⟨hopen, rfl, rfl, rfl, List.not_mem_nil⟩
  | began _ _ _ _ _ _ _ _ => exact ⟨hopen, rfl, rfl, rfl, List.not_mem_nil⟩
  | gaveUp _ _ _ _ _ _ _ _ => exact ⟨hopen, rfl, rfl, rfl, List.not_mem_nil⟩
  | wrote _ _ _ _ _ _ => exact ⟨hopen, rfl, rfl, rfl, by simp⟩
  | wroteLast _ _ _ _ => exact ⟨hopen, rfl, rfl, rfl, by simp⟩
  | reported _ _ _ _ _ _ => exact ⟨hopen, rfl, rfl, rfl, by simp⟩
  | _ => cases hl

/-- A task moves on whose answer was begun before as well as after, or not. -/
theorem idle_of_setStage {i : Nat} {t : Task} {bytes : Bytes} (stage : Stage)
    (hi : s.tasks[i]? = some t) (hsame : stage.isBegun = t.stage.isBegun)
    (htasks : s'.tasks = s.tasks.modify i fun t => { t with stage := stage })
    (hinbox : s'.inbox = s.inbox) (hbytes : s.unwritten = bytes ++ s'.unwritten) :
    Advance setup s bytes s' := by
  refine .idle ?_ ?_ hinbox hbytes
  · show s'.tasks.map Task.request = s.tasks.map Task.request
    rw [htasks]
    exact map_request_modify s.tasks i stage
  · rw [State.unbegun, State.unbegun, htasks]
    refine filterMap_modify_eq hi ?_
    show (if stage.isBegun then none else some t.request) = _
    rw [hsame, Task.unbegun?]

/-- The answer of a task that comes to the writer is what the registry says. -/
theorem Books.reply_eq {r : Record} {i : Nat} {t : Task} {reply : Reply} (h : Books setup r s)
    (hi : s.tasks[i]? = some t) (hstage : t.stage = .answered reply) :
    reply = setup.answer t.request := by
  have hfits := h.kept.fits hi
  rw [hstage] at hfits
  exact hfits.of_answered.1

theorem advance_of_change {task : Option Nat} {frame : Option (Nat × Bytes)} {bytes : Bytes}
    {r : Record} (hc : Change setup s none task frame bytes s') (hbooks : Books setup r s)
    (hs : Smooth setup s) (hinbox : s'.inbox = s.inbox) : Advance setup s bytes s' := by
  have houtcome : ∀ {i : Nat} {t : Task} {reply : Reply}, s.tasks[i]? = some t →
      t.stage = .answered reply → reply.frameOrSubstitute setup.frameLimit t.request.seq
        = .ok (Frame.encode (setup.response t.request)) := by
    intro i t reply hi hstage
    rw [hbooks.reply_eq hi hstage]
    exact hs.outcome t.request (List.mem_map_of_mem (List.mem_of_getElem? hi))
  cases hc with
  | quiet _ htasks _ hwriting =>
    refine .idle ?_ ?_ hinbox ?_
    · rw [State.requests, State.requests, htasks]
    · rw [State.unbegun, State.unbegun, htasks]
    · rw [State.unwritten, State.unwritten, hwriting, List.nil_append]
  | acquired i request method _ hi _ => exact idle_of_setStage .dispatched hi rfl rfl rfl rfl
  | ran i request method reply hi _ =>
    exact idle_of_setStage (.answered reply) hi rfl rfl rfl rfl
  | began i t reply frame hnone hi hstage hframe =>
    cases (houtcome hi hstage).symm.trans hframe
    refine .began t.request ?_ ?_ hinbox (by rw [State.unwritten, hnone]) rfl
    · exact map_request_modify s.tasks i .writing
    · refine filterMap_modify_perm hi ?_ rfl
      rw [Task.unbegun?, hstage]
      rfl
  | gaveUp i t reply cause _ hi hstage hframe => cases (houtcome hi hstage).symm.trans hframe
  | wrote i n left hwriting _ _ =>
    refine .idle rfl rfl hinbox ?_
    show s.unwritten = left.take n ++ left.drop n
    rw [State.unwritten, hwriting, List.take_append_drop]
  | wroteLast i _ hwriting =>
    obtain ⟨t, hi, hstage⟩ := hbooks.writing.1 i bytes hwriting
    refine idle_of_setStage (.settled none) hi (by rw [hstage]; rfl) rfl hinbox ?_
    show s.unwritten = bytes ++ []
    rw [State.unwritten, hwriting, List.append_nil]
  | reported i request method failure hi =>
    exact idle_of_setStage (.reported failure) hi rfl rfl rfl rfl
  | resumed i request failure _ hi =>
    exact idle_of_setStage (.reported failure) hi rfl rfl rfl rfl

/-- What every step of the daily work keeps, and what it means to the pipes. -/
def Goes (setup : Setup) (permits : Nat) (s s' : State) (shown : List Effect) : Prop :=
  Lasting s' ∧ Sound setup permits s' ∧ Advance setup s (output shown) s' ∧ .endOutput ∉ shown

theorem writing_of_change {request : Option Request} {task : Option Nat}
    {frame : Option (Nat × Bytes)} {bytes : Bytes} (hc : Change setup s request task frame bytes s')
    (h : ∀ i left, s.writing = some (i, left) → left ≠ []) :
    ∀ i left, s'.writing = some (i, left) → left ≠ [] := by
  cases hc with
  | quiet _ _ _ hwriting => rwa [hwriting]
  | took _ _ _ _ _ hwriting => rwa [hwriting]
  | acquired _ _ _ _ _ _ => exact h
  | ran _ _ _ _ _ _ => exact h
  | began i t reply frame _ _ _ hframe =>
    intro j left hj
    cases hj
    -- a frame has at least its length in front
    have hbody : ∃ body, frame = Frame.encode body := by
      unfold Reply.frameOrSubstitute at hframe
      split at hframe
      · next whole hwhole =>
        cases hframe
        obtain ⟨body, _, _, hbody⟩ := Reply.frame_eq_ok hwhole
        exact ⟨body, hbody⟩
      · obtain ⟨body, _, _, hbody⟩ := Reply.frame_eq_ok hframe
        exact ⟨body, hbody⟩
    obtain ⟨body, rfl⟩ := hbody
    exact Frame.encode_ne_nil body
  | gaveUp _ _ _ _ _ _ _ _ => exact h
  | wrote i n left _ _ hn =>
    intro j rest hj
    cases hj
    intro hnil
    have := List.drop_eq_nil_iff.mp hnil
    omega
  | wroteLast _ _ _ => exact fun _ _ hj => by cases hj
  | reported _ _ _ _ _ => exact h
  | resumed _ _ _ _ _ => exact h

/-- No answer was given up. -/
theorem Books.stage_ne_failed {r : Record} (h : Books setup r s) (hs : Smooth setup s) {i : Nat}
    {t : Task} {cause : LinkError} (hi : s.tasks[i]? = some t) :
    t.stage ≠ .settled (some cause) := by
  intro hstage
  have hfits := h.kept.fits hi
  have hfailure := failure_of_ok
    (hs.outcome t.request (List.mem_map_of_mem (List.mem_of_getElem? hi)))
  rw [hstage] at hfits
  cases hfits.of_settled.1.trans hfailure

theorem unbegun_task (setup : Setup) (request : Request) :
    (setup.task request).unbegun? = some request := by
  unfold Setup.task
  split
  · rfl
  · rfl

theorem took_of_read (h : Lasting s) (hs : Smooth setup s)
    (hstep : step setup s .read = some (s', shown)) :
    Advance setup s (output shown) s' ∧ .endOutput ∉ shown ∧ s'.phase.isOpen = true ∧
      s'.inputEnded = s.inputEnded ∧ s'.shutdown = s.shutdown := by
  -- what is read is a request, as everything else would be a failure
  have hframe : ∀ {body rest : Bytes}, Frame.scan setup.frameLimit s.inbox = .frame body rest →
      ∃ e, Envelope.decode body = .ok e := by
    intro body rest hscan
    rcases hs.inbox with hshort | ⟨_, _, e, hscan', hdecode⟩
    · cases hshort.symm.trans hscan
    · cases hscan'.symm.trans hscan
      exact ⟨e, hdecode⟩
  cases move_of_step hstep with
  | took body rest e _ hscan hdecode htake =>
    have heq := takeOver_eq setup { s with inbox := rest }
      ⟨e.header.method, e.header.seq, e.payload⟩
    have heffects : .endOutput ∉ (State.takeOver setup { s with inbox := rest }
        ⟨e.header.method, e.header.seq, e.payload⟩).2 := by
      unfold State.takeOver
      split
      · exact List.not_mem_nil
      · simp
    rw [htake] at heq heffects
    obtain ⟨hs', hout⟩ := heq
    simp only at hs' hout heffects
    subst hs'
    refine ⟨?_, heffects, rfl, rfl, rfl⟩
    rw [hout]
    refine .took body e hscan hdecode ?_ ?_ rfl
    · show (s.tasks ++ [_]).map Task.request = _
      rw [List.map_append, List.map_singleton, request_task]
      rfl
    · show (s.tasks ++ [_]).filterMap Task.unbegun? = _
      rw [List.filterMap_append, List.filterMap_cons, unbegun_task]
      rfl
  | badFrame body rest cause _ hscan hdecode =>
    obtain ⟨e, hdecode'⟩ := hframe hscan
    cases hdecode'.symm.trans hdecode
  | tooLarge length rest _ hscan =>
    rcases hs.inbox with hshort | ⟨_, _, _, hscan', _⟩
    · cases hshort.symm.trans hscan
    · cases hscan'.symm.trans hscan
  | noMore _ _ hended => cases h.inputEnded.symm.trans hended

/-- **The daily work goes on**, and the pipes see it as `Advance` says. -/
theorem goes_of_step {label : Label} (h : Lasting s) (hsound : Sound setup permits s)
    (hs : Smooth setup s) (hl : label.isRoutine = true)
    (hstep : step setup s label = some (s', shown)) : Goes setup permits s s' shown := by
  have hbreaks : label.breaks = false := by
    cases label with
    | failWrite cause => cases hl
    | _ => rfl
  have hc := change_of_step hbreaks hstep
  obtain ⟨⟨r, hbooks⟩, hphased⟩ := hsound
  have hsound' : Sound setup permits s' :=
    ⟨⟨_, books_step hc hbooks⟩, phased_step hc hbooks.writing hphased⟩
  have hwriting := writing_of_change hc h.writing
  by_cases hread : label = .read
  · subst hread
    obtain ⟨hadvance, heffects, hopen, hinput, hshut⟩ := took_of_read h hs hstep
    exact ⟨⟨hopen, hinput.trans h.inputEnded, hshut.trans h.shutdown, hwriting⟩, hsound',
      hadvance, heffects⟩
  · have hquiet := quiet_of_step h (hbooks.stage_ne_failed hs) hl hread hstep
    have hnone : s.incoming setup label = none := by
      cases label with
      | read => exact absurd rfl hread
      | _ => rfl
    rw [hnone] at hc
    exact ⟨⟨hquiet.phase, hquiet.inputEnded.trans h.inputEnded, hquiet.shutdown.trans h.shutdown,
      hwriting⟩, hsound', advance_of_change hc hbooks hs hquiet.inbox, hquiet.effects⟩

/-! ## When nothing can be done -/

/-- No step of the daily work can be taken. -/
def State.IsStuck (setup : Setup) (s : State) : Prop :=
  ∀ label : Label, label.isRoutine = true → step setup s label = none

theorem State.IsStuck.writing (hstuck : s.IsStuck setup) (h : Lasting s) : s.writing = none := by
  cases hwriting : s.writing with
  | none => rfl
  | some current =>
    obtain ⟨i, left⟩ := current
    have hne := h.writing i left hwriting
    have hpos := List.length_pos_iff.mpr hne
    have hnone := hstuck (.write 1) rfl
    simp only [step, State.write, hwriting] at hnone
    rw [if_neg (by omega)] at hnone
    split at hnone
    · cases hnone
    · cases hnone

/-- Where nothing can be done, a task is over or waits for a permit. -/
theorem State.IsStuck.stage {r : Record} (hstuck : s.IsStuck setup) (h : Lasting s)
    (hbooks : Books setup r s) (hphased : Phased permits s) (hs : Smooth setup s) {i : Nat}
    {t : Task} (hi : s.tasks[i]? = some t) :
    t.stage.isOver = true ∨ t.handler.isSome = true ∧ t.stage = .waiting := by
  have hwriting := hstuck.writing h
  have hhandler := hbooks.kept.handler hi
  have hfits := hbooks.kept.fits hi
  have hnot := @Books.stage_ne_failed setup s r hbooks hs i t
  have hfit := hbooks.writing.2 i t hi
  have hholds := hphased.holds hi
  obtain ⟨request, handler, stage⟩ := t
  simp only at hhandler hfits hnot hfit
  cases stage with
  | waiting =>
    obtain ⟨_, _, method, hmethod⟩ := hfits.of_waiting
    rw [hhandler, hmethod]
    exact Or.inr ⟨rfl, rfl⟩
  | dispatched =>
    obtain ⟨_, _, method, hmethod⟩ := hfits.of_dispatched
    rw [hhandler, hmethod] at hi
    have hnone := hstuck (.handle i) rfl
    simp only [step, State.handle, hi] at hnone
    split at hnone
    · cases hnone
    · cases hnone
  | answered reply =>
    -- the writer is free, so whoever has an answer can take it
    have hnone := hstuck (.takeWriter i) rfl
    simp only [step, State.takeWriter, hwriting, hi] at hnone
    split at hnone
    · cases hnone
    · cases hnone
  | writing =>
    obtain ⟨left, hleft⟩ := hfit rfl
    cases hwriting.symm.trans hleft
  | settled failure =>
    cases failure with
    | some cause => exact absurd rfl (hnot hi)
    | none =>
      cases handler with
      | some method =>
        have hnone := hstuck (.report i 0) rfl
        simp only [step, State.report, hi] at hnone
        cases hnone
      | none =>
        -- the connection itself goes on after the answer to an unknown target
        have hphase := hholds rfl
        have hnone := hstuck .resume rfl
        simp only [step, State.resume, hphase, hi] at hnone
        cases hnone
  | reported failure => exact Or.inl rfl

/-- Where nothing can be done, no task waits for a permit either. -/
theorem State.IsStuck.isOver {r : Record} (hstuck : s.IsStuck setup) (h : Lasting s)
    (hbooks : Books setup r s) (hphased : Phased permits s) (hs : Smooth setup s)
    (hpermits : 1 ≤ permits) {i : Nat} {t : Task} (hi : s.tasks[i]? = some t) :
    t.stage.isOver = true := by
  rcases hstuck.stage h hbooks hphased hs hi with hover | ⟨hhandler, hwaiting⟩
  · exact hover
  · -- no task has a permit, so all permits are free
    have hnobody : s.running = 0 := by
      rw [State.running, List.countP_eq_zero]
      intro u hu
      obtain ⟨j, hj⟩ := List.getElem?_of_mem hu
      rcases hstuck.stage h hbooks hphased hs hj with hover | ⟨_, hstage⟩
      · simp [Task.isRunning, hover]
      · simp [Task.isRunning, hstage]
    have hsum := hphased.permits
    obtain ⟨request, handler, stage⟩ := t
    cases handler with
    | none => cases hhandler
    | some method =>
      simp only at hwaiting
      subst hwaiting
      have hbusy := hphased.holds hi rfl
      have hnone := hstuck .acquire rfl
      simp only [step, State.acquire, hbusy, hi] at hnone
      rw [if_neg (by omega)] at hnone
      cases hnone

/-- **When a connection is stuck**, it owes no answer, and has nothing to write and nothing to
read. -/
theorem rest_of_stuck (h : Lasting s) (hsound : Sound setup permits s) (hs : Smooth setup s)
    (hpermits : 1 ≤ permits) (hstuck : s.IsStuck setup) :
    s.unwritten = [] ∧ s.unbegun = [] ∧ Frame.scan setup.frameLimit s.inbox = .short := by
  obtain ⟨⟨r, hbooks⟩, hphased⟩ := hsound
  have hover : ∀ {i : Nat} {t : Task}, s.tasks[i]? = some t → t.stage.isOver = true :=
    fun hi => hstuck.isOver h hbooks hphased hs hpermits hi
  refine ⟨?_, ?_, ?_⟩
  · rw [State.unwritten, hstuck.writing h]
  · rw [State.unbegun, List.filterMap_eq_nil_iff]
    intro t ht
    obtain ⟨i, hi⟩ := List.getElem?_of_mem ht
    have hstage := hover hi
    rw [Task.unbegun?]
    generalize t.stage = stage at hstage
    cases stage with
    | reported failure => rfl
    | _ => cases hstage
  · have hopen := h.phase
    generalize hphase : s.phase = phase at hopen
    cases phase with
    | starting =>
      have hnone := hstuck .announce rfl
      simp only [step, hphase] at hnone
      cases hnone
    | reading =>
      rcases hs.inbox with hshort | ⟨body, rest, e, hscan, hdecode⟩
      · exact hshort
      · have hnone := hstuck .read rfl
        simp only [step, hphase, State.read, hscan, hdecode] at hnone
        cases hnone
    | busy i =>
      -- it would be busy with a task that is not over
      obtain ⟨t, hi, hheld⟩ := hphased.busy hphase
      have hstage := hover hi
      rw [Task.holdsReading] at hheld
      cases hhandler : t.handler with
      | none =>
        rw [hhandler] at hheld
        simp [hstage] at hheld
      | some method =>
        rw [hhandler] at hheld
        have hwaiting : t.stage = .waiting := by simpa using hheld
        rw [hwaiting] at hstage
        cases hstage
    | _ => cases hopen

end RemoteCall.Connection
