import RemoteCall.Proofs.Server.Reports
import RemoteCall.Proofs.Service.Registered

/-!
# The life of a connection

The first thing that a connection reports is that it is served, and the last that it has ended.  In
between it reads until one of three things stops it: the server shuts down, there is nothing to read
or it cannot be read, or the reply to an unknown target cannot be sent.  That is its `Ending`, and
the error of its last report is the ending's; the end of the stream is no error.

Then the connection waits for its tasks.  When it ends its output, each of them is over: its answer
is out as a whole frame, or it broke off, or there was no frame for it (`Resolved`), and a dispatched
one has reported which, once.  Behind the end of the output stands the last report and nothing else.

`Lived` puts this together, and `lived_of_run` says it of every connection that has ended.
-/

namespace RemoteCall.Connection

/-! ## What stops a connection from reading -/

/-- What stops a connection from reading on. -/
inductive Ending
  /-- The server shuts down. -/
  | shutdown
  /-- There is nothing to read, or it cannot be read. -/
  | unreadable (cause : LinkError)
  /-- The reply to an unknown target could not be sent; that is the task of this number. -/
  | unanswered (task : Nat) (cause : LinkError)
  deriving DecidableEq, Repr

/-- The failure in an ending; the end of the stream is none. -/
def Ending.failure : Ending → Option LinkError
  | shutdown => none
  | unreadable cause => if cause = .closed then none else some cause
  | unanswered _ cause => some cause

theorem Ending.failure_eq_none {ending : Ending} :
    ending.failure = none ↔ ending = .shutdown ∨ ending = .unreadable .closed := by
  cases ending with
  | shutdown => simp [failure]
  | unreadable cause => simp [failure]
  | unanswered i cause => simp [failure]

/-- Why a step that reads does not get a request. -/
def State.unread (setup : Setup) (s : State) : Label → Option LinkError
  | .read =>
    match Frame.scan setup.frameLimit s.inbox with
    | .frame body _ =>
      match Envelope.decode body with
      | .ok _ => none
      | .error cause => some cause
    | .tooLarge length _ => some (Frame.overLimit length setup.frameLimit)
    | .short => if s.inputEnded then some .closed else none
  | .failRead cause => some cause
  | _ => none

/-- Which reply could not be sent, if the connection has been busy with it. -/
def State.unsent (s : State) : Label → Option (Nat × LinkError)
  | .resume =>
    match s.phase with
    | .busy i =>
      match s.tasks[i]? with
      | some ⟨_, none, .settled (some cause)⟩ => some (i, cause)
      | _ => none
    | _ => none
  | _ => none

/-- How the reading ends at a moment, if it does. -/
def ending? (setup : Setup) (m : Moment State Label Effect) : Option Ending :=
  if m.label = .notice then some .shutdown
  else
    match m.before.unread setup m.label, m.before.unsent m.label with
    | some cause, _ => some (.unreadable cause)
    | none, some (i, cause) => some (.unanswered i cause)
    | none, none => none

/-- The endings of a run. -/
def endings (setup : Setup) (past : List (Moment State Label Effect)) : List Ending :=
  past.filterMap (ending? setup)

/-- Whether the connection has stopped reading, and whether that was a failure. -/
def Phase.stopped? : Phase → Option (Option LinkError)
  | .draining failure => some failure
  | .closing failure => some failure
  | .closed failure => some failure
  | .ended failure => some failure
  | _ => none

variable {setup : Setup} {s s' : State} {label : Label} {shown : List Effect} {permits : Nat}
  {past : List (Moment State Label Effect)}

/-- What a step means for the reading of a connection. -/
inductive Reads (setup : Setup) (s s' : State) (label : Label) (shown : List Effect) : Prop
  /-- The connection has stopped if it had before. -/
  | same : ending? setup ⟨s, label, s', shown⟩ = none → s'.phase.stopped? = s.phase.stopped? →
      Reads setup s s' label shown
  /-- The reading ends, and with that failure the connection begins to wait for its tasks. -/
  | ends (ending : Ending) : ending? setup ⟨s, label, s', shown⟩ = some ending →
      s.phase.stopped? = none → s'.phase = .draining ending.failure → Reads setup s s' label shown

/-- A connection stops reading at an ending and at no other step. -/
theorem reads_of_step (h : step setup s label = some (s', shown)) :
    Reads setup s s' label shown := by
  cases move_of_step h with
  | accepted hphase => exact .same rfl (by rw [hphase]; rfl)
  | noticed hphase _ => exact .ends .shutdown rfl (by rw [hphase]; rfl) rfl
  | took body rest e hphase hscan hdecode htake =>
    refine .same (by simp [ending?, State.unread, State.unsent, hscan, hdecode]) ?_
    rw [eq_of_takeOver htake, hphase]
    rfl
  | badFrame body rest cause hphase hscan hdecode =>
    exact .ends (.unreadable cause) (by simp [ending?, State.unread, hscan, hdecode])
      (by rw [hphase]; rfl) rfl
  | tooLarge length rest hphase hscan =>
    exact .ends (.unreadable (Frame.overLimit length setup.frameLimit))
      (by simp [ending?, State.unread, hscan]) (by rw [hphase]; rfl) rfl
  | noMore hphase hscan hended =>
    exact .ends (.unreadable .closed) (by simp [ending?, State.unread, hscan, hended])
      (by rw [hphase]; rfl) rfl
  | readFailed cause hphase => exact .ends (.unreadable cause) rfl (by rw [hphase]; rfl) rfl
  | acquired i request method hphase _ _ => exact .same rfl (by rw [hphase]; rfl)
  | resumed i request hphase htask =>
    exact .same (by simp [ending?, State.unread, State.unsent, hphase, htask]) (by rw [hphase]; rfl)
  | notResumed i request cause hphase htask =>
    exact .ends (.unanswered i cause)
      (by simp [ending?, State.unread, State.unsent, hphase, htask]) (by rw [hphase]; rfl) rfl
  | drained failure hphase _ => exact .same rfl (by rw [hphase]; rfl)
  | outputEnded failure hphase => exact .same rfl (by rw [hphase]; rfl)
  | announcedEnd failure hphase => exact .same rfl (by rw [hphase]; rfl)
  | _ => exact .same rfl rfl

/-- **The reading of a connection ends once**, and the connection goes on with the failure of that
ending. -/
theorem endings_of_run (h : Run (step setup) (start permits) past s) :
    (endings setup past).map Ending.failure = s.phase.stopped?.toList := by
  induction h with
  | start => rfl
  | @snoc past s s' label shown hrun hstep ih =>
    have hsnoc : endings setup (past ++ [⟨s, label, s', shown⟩])
        = endings setup past ++ (ending? setup ⟨s, label, s', shown⟩).toList :=
      filterMap_concat _ _ _
    rw [hsnoc, List.map_append, ih]
    cases reads_of_step hstep with
    | same hnone hsame =>
      rw [hnone, hsame]
      exact List.append_nil _
    | ends ending hending hbefore hafter =>
      rw [hending, hbefore, hafter]
      rfl

/-! ## What a connection tells -/

/-- What a connection may show while it serves. -/
def Effect.isService : Effect → Bool
  | .bytes _ => true
  | .event (.handled ..) => true
  | .event (.unknownMethod ..) => true
  | .event (.written ..) => true
  | .event (.failed ..) => true
  | _ => false

/-- Whether the connection reads, or waits for its tasks. -/
def Phase.isMidway : Phase → Bool
  | .reading => true
  | .busy _ => true
  | .draining _ => true
  | _ => false

/-- Whether the connection serves, and has not ended its output yet. -/
def Phase.isServing : Phase → Bool
  | .reading => true
  | .busy _ => true
  | .draining _ => true
  | .closing _ => true
  | _ => false

theorem Phase.late_of_midway {phase : Phase} (h : phase.isMidway = true) :
    phase.isLate = false := by
  cases phase with
  | reading | busy | draining => rfl
  | _ => cases h

theorem State.hasEnded_iff : s.hasEnded = true ↔ ∃ failure, s.phase = .ended failure := by
  rw [State.hasEnded]
  cases s.phase <;> simp

/-- What a step means for the course of a connection. -/
inductive Turn (setup : Setup) (s s' : State) (shown : List Effect) : Prop
  /-- Only something outside of the connection happens. -/
  | outside : s'.phase = s.phase → s'.tasks = s.tasks → shown = [] → Turn setup s s' shown
  | begins : s.phase = .starting → s'.phase = .reading →
      shown = [.event (.accepted setup.peer)] → Turn setup s s' shown
  /-- Something is done for a request, by the connection or by a task that is not over. -/
  | serves : (s.phase.isMidway = true ∨ ∃ t ∈ s.tasks, t.stage.isOver = false) →
      (s.phase.isServing = true → s'.phase.isServing = true) →
      (∀ x ∈ shown, x.isService = true) → Turn setup s s' shown
  | closes (failure : Option LinkError) : s.phase = .closing failure →
      s'.phase = .closed failure → s'.tasks = s.tasks → shown = [.endOutput] → Turn setup s s' shown
  | ends (failure : Option LinkError) : s.phase = .closed failure → s'.phase = .ended failure →
      s'.tasks = s.tasks → shown = [.event (.ended setup.peer (failure.map LinkError.message))] →
      Turn setup s s' shown

/-- The connection itself does something, in a phase in which it serves. -/
theorem Turn.of_midway (hmidway : s.phase.isMidway = true) (hserving : s'.phase.isServing = true)
    (hshown : ∀ x ∈ shown, x.isService = true) : Turn setup s s' shown :=
  .serves (Or.inl hmidway) (fun _ => hserving) hshown

/-- A task that is not over does something. -/
theorem Turn.of_task {i : Nat} {t : Task} (hi : s.tasks[i]? = some t)
    (hopen : t.stage.isOver = false) (hphase : s'.phase = s.phase)
    (hshown : ∀ x ∈ shown, x.isService = true) : Turn setup s s' shown :=
  .serves (Or.inr ⟨t, List.mem_of_getElem? hi, hopen⟩) (fun h => hphase ▸ h) hshown

/-- So does the task at which the writer is. -/
theorem Turn.of_writer {i : Nat} {left : Bytes} (hw : WritingFits s.tasks s.writing)
    (hwriting : s.writing = some (i, left)) (hphase : s'.phase = s.phase)
    (hshown : ∀ x ∈ shown, x.isService = true) : Turn setup s s' shown := by
  obtain ⟨t, hi, hstage⟩ := hw.1 i left hwriting
  exact .of_task hi (by rw [hstage]; rfl) hphase hshown

/-- What is reported about an unknown target is part of serving it. -/
theorem isService_of_takeOver {request : Request}
    (h : s.takeOver setup request = (s', shown)) : ∀ x ∈ shown, x.isService = true := by
  rw [State.takeOver] at h
  split at h
  · cases h
    exact fun _ hx => by cases hx
  · cases h
    exact fun _ hx => by cases List.mem_singleton.mp hx; rfl

theorem isService_of_handled {events : List Event} {reply : Reply} {method : Method}
    {name : String} {payload : Bytes} (hreports : method.ReportsRuns)
    (h : method.invoke name payload = .replied events reply) :
    ∀ x ∈ events.map Effect.event, x.isService = true := by
  intro x hx
  obtain ⟨event, hevent, rfl⟩ := List.mem_map.mp hx
  obtain ⟨args, shown, error, rfl⟩ := hreports name payload event (by rw [h]; exact hevent)
  rfl

theorem turn_of_step (hw : WritingFits s.tasks s.writing)
    (hreports : ∀ t ∈ s.tasks, ∀ method, t.handler = some method → method.ReportsRuns)
    (h : step setup s label = some (s', shown)) : Turn setup s s' shown := by
  cases move_of_step h with
  | arrived _ _ => exact .outside rfl rfl rfl
  | inputOver => exact .outside rfl rfl rfl
  | shuttingDown => exact .outside rfl rfl rfl
  | accepted hphase => exact .begins hphase rfl rfl
  -- the connection reads, or goes on after a request
  | noticed hphase _ => exact .of_midway (by rw [hphase]; rfl) rfl (by simp)
  | took body rest e hphase _ _ htake =>
    have hbusy := eq_of_takeOver htake
    exact .of_midway (by rw [hphase]; rfl) (by rw [hbusy]; rfl) (isService_of_takeOver htake)
  | badFrame _ _ _ hphase _ _ => exact .of_midway (by rw [hphase]; rfl) rfl (by simp)
  | tooLarge _ _ hphase _ => exact .of_midway (by rw [hphase]; rfl) rfl (by simp)
  | noMore hphase _ _ => exact .of_midway (by rw [hphase]; rfl) rfl (by simp)
  | readFailed _ hphase => exact .of_midway (by rw [hphase]; rfl) rfl (by simp)
  | acquired _ _ _ hphase _ _ => exact .of_midway (by rw [hphase]; rfl) rfl (by simp)
  | resumed _ _ hphase _ => exact .of_midway (by rw [hphase]; rfl) rfl (by simp)
  | notResumed _ _ _ hphase _ => exact .of_midway (by rw [hphase]; rfl) rfl (by simp)
  | drained _ hphase _ => exact .of_midway (by rw [hphase]; rfl) rfl (by simp)
  -- it comes to its end
  | outputEnded failure hphase => exact .closes failure hphase rfl rfl rfl
  | announcedEnd failure hphase => exact .ends failure hphase rfl rfl rfl
  -- a task goes on
  | ran i request method events reply hi hinvoke =>
    exact .of_task hi rfl rfl
      (isService_of_handled (hreports _ (List.mem_of_getElem? hi) method rfl) hinvoke)
  | panicked i request method hi _ => exact .of_task hi rfl rfl (by simp)
  | began i t reply frame _ hi hstage _ => exact .of_task hi (by rw [hstage]; rfl) rfl (by simp)
  | gaveUp i t reply cause _ hi hstage _ => exact .of_task hi (by rw [hstage]; rfl) rfl (by simp)
  | wrote i n left hwriting _ _ => exact .of_writer hw hwriting rfl (by simp [Effect.isService])
  | wroteLast i n left hwriting => exact .of_writer hw hwriting rfl (by simp [Effect.isService])
  | writeFailed i left cause hwriting => exact .of_writer hw hwriting rfl (by simp)
  | reported i nanos request method failure hi =>
    refine .of_task hi rfl rfl ?_
    cases failure <;> simp [State.outcomeEvent, Effect.isService]

/-- As long as something is done for a request, a connection does not come to its end. -/
theorem Phased.not_late (h : Phased permits s)
    (hbusy : s.phase.isMidway = true ∨ ∃ t ∈ s.tasks, t.stage.isOver = false) :
    s.phase.isLate = false := by
  rcases hbusy with hmidway | ⟨t, ht, hopen⟩
  · exact Phase.late_of_midway hmidway
  · rw [Bool.eq_false_iff]
    intro hlate
    obtain ⟨i, hi⟩ := List.getElem?_of_mem ht
    rw [h.drained hlate hi] at hopen
    cases hopen

/-- Once all tasks are over, nothing changes them. -/
theorem Turn.tasks_of_late (ht : Turn setup s s' shown) (hp : Phased permits s)
    (hlate : s.phase.isLate = true) : s'.tasks = s.tasks ∧ s'.phase.isLate = true := by
  cases ht with
  | outside hphase htasks _ => exact ⟨htasks, hphase ▸ hlate⟩
  | begins hphase _ _ =>
    rw [hphase] at hlate
    cases hlate
  | serves hbusy _ _ =>
    rw [hp.not_late hbusy] at hlate
    cases hlate
  | closes _ _ hphase htasks _ => exact ⟨htasks, by rw [hphase]; rfl⟩
  | ends _ _ hphase htasks _ => exact ⟨htasks, by rw [hphase]; rfl⟩

/-- A connection that has ended shows nothing more. -/
theorem Turn.of_ended (ht : Turn setup s s' shown) (hp : Phased permits s)
    (hended : s.hasEnded = true) : shown = [] ∧ s'.hasEnded = true := by
  obtain ⟨failure, hphase⟩ := State.hasEnded_iff.mp hended
  cases ht with
  | outside hsame _ hshown => exact ⟨hshown, State.hasEnded_iff.mpr ⟨failure, hsame.trans hphase⟩⟩
  | begins hother _ _ => cases hphase.symm.trans hother
  | serves hbusy _ _ =>
    have hearly := hp.not_late hbusy
    rw [hphase] at hearly
    cases hearly
  | closes _ hother _ _ _ => cases hphase.symm.trans hother
  | ends _ hother _ _ _ => cases hphase.symm.trans hother

/-- Everything that a connection has shown when it is in this state. -/
inductive Told (setup : Setup) (s : State) : List Effect → Prop
  | nothing : s.phase = .starting → s.tasks = [] → Told setup s []
  | serving (service : List Effect) : s.phase.isServing = true →
      (∀ x ∈ service, x.isService = true) →
      Told setup s (.event (.accepted setup.peer) :: service)
  | closed (failure : Option LinkError) (service : List Effect) : s.phase = .closed failure →
      (∀ x ∈ service, x.isService = true) →
      Told setup s (.event (.accepted setup.peer) :: service ++ [.endOutput])
  | ended (failure : Option LinkError) (service : List Effect) : s.phase = .ended failure →
      (∀ x ∈ service, x.isService = true) →
      Told setup s (.event (.accepted setup.peer) :: service ++
        [.endOutput, .event (.ended setup.peer (failure.map LinkError.message))])

theorem Told.congr {all : List Effect} (h : Told setup s all) (hphase : s'.phase = s.phase)
    (htasks : s'.tasks = s.tasks) : Told setup s' all := by
  cases h with
  | nothing hstart hnone => exact .nothing (hphase.trans hstart) (htasks.trans hnone)
  | serving service hserving hservice => exact .serving service (hphase ▸ hserving) hservice
  | closed failure service hclosed hservice =>
    exact .closed failure service (hphase.trans hclosed) hservice
  | ended failure service hended hservice =>
    exact .ended failure service (hphase.trans hended) hservice

/-- **What a connection tells follows its phases.** -/
theorem Told.step {all : List Effect} (h : Told setup s all) (hp : Phased permits s)
    (ht : Turn setup s s' shown) : Told setup s' (all ++ shown) := by
  cases ht with
  | outside hphase htasks hshown =>
    rw [hshown, List.append_nil]
    exact h.congr hphase htasks
  | begins hstart hphase hshown =>
    rw [hshown]
    cases h with
    | nothing _ _ => exact .serving [] (by rw [hphase]; rfl) (by simp)
    | serving _ hserving _ =>
      rw [hstart] at hserving
      cases hserving
    | closed _ _ hother _ => cases hstart.symm.trans hother
    | ended _ _ hother _ => cases hstart.symm.trans hother
  | serves hbusy hgoes hshown =>
    have hearly := hp.not_late hbusy
    cases h with
    | nothing hstart hnone =>
      -- it does not serve yet, and there is no task
      rw [hstart, hnone] at hbusy
      rcases hbusy with hmidway | ⟨t, hmem, _⟩
      · cases hmidway
      · cases hmem
    | serving service hserving hservice =>
      refine .serving (service ++ shown) (hgoes hserving) fun x hx => ?_
      exact (List.mem_append.mp hx).elim (hservice x) (hshown x)
    | closed _ _ hphase _ =>
      rw [hphase] at hearly
      cases hearly
    | ended _ _ hphase _ =>
      rw [hphase] at hearly
      cases hearly
  | closes failure hclosing hphase _ hshown =>
    rw [hshown]
    cases h with
    | nothing hother _ => cases hclosing.symm.trans hother
    | serving service _ hservice => exact .closed failure service hphase hservice
    | closed _ _ hother _ => cases hclosing.symm.trans hother
    | ended _ _ hother _ => cases hclosing.symm.trans hother
  | ends failure hclosed hphase _ hshown =>
    rw [hshown]
    cases h with
    | nothing hother _ => cases hclosed.symm.trans hother
    | serving _ hserving _ =>
      rw [hclosed] at hserving
      cases hserving
    | closed _ service hsame hservice =>
      cases hclosed.symm.trans hsame
      rw [List.append_assoc]
      exact .ended failure service hphase hservice
    | ended _ _ hother _ => cases hclosed.symm.trans hother

/-- The methods of a connection's tasks are those of its registry. -/
theorem reportsRuns_of_run (hregistry : setup.registry.Registered Method.ReportsRuns)
    (h : Run (step setup) (start permits) past s) :
    ∀ t ∈ s.tasks, ∀ method, t.handler = some method → method.ReportsRuns := by
  intro t ht method hmethod
  obtain ⟨i, hi⟩ := List.getElem?_of_mem ht
  have hhandler := ((sending_of_run h).answering i t hi).1
  rw [hmethod, Setup.handler] at hhandler
  cases hlookup : setup.registry.lookup t.request.method with
  | error cause =>
    rw [hlookup] at hhandler
    cases hhandler
  | ok found =>
    rw [hlookup] at hhandler
    cases hhandler
    exact hregistry.of_lookup hlookup

theorem turn_of_run (hregistry : setup.registry.Registered Method.ReportsRuns)
    (h : Run (step setup) (start permits) past s) (hstep : step setup s label = some (s', shown)) :
    Turn setup s s' shown :=
  turn_of_step (writing_of_run h) (reportsRuns_of_run hregistry h) hstep

theorem told_of_run (hregistry : setup.registry.Registered Method.ReportsRuns)
    (h : Run (step setup) (start permits) past s) : Told setup s (effects past) := by
  induction h with
  | start => exact .nothing rfl rfl
  | snoc hrun hstep ih =>
    rw [effects_snoc]
    exact ih.step (phased_of_run hrun) (turn_of_run hregistry hrun hstep)

/-! ## The life of a connection that has ended -/

/-- How a connection has lived that has ended. -/
structure Lived (setup : Setup) (past : List (Moment State Label Effect)) (s : State) : Prop where
  /-- It told first that it is served.  One thing stopped it from reading, and only one.  Behind the
  end of its output it told that it has ended, with the error of what stopped it, and nothing more.
  There is no error exactly if that was the shutdown or the end of the stream. -/
  told : ∃ ending service, endings setup past = [ending] ∧
    (ending.failure = none ↔ ending = .shutdown ∨ ending = .unreadable .closed) ∧
    (∀ x ∈ service, x.isService = true) ∧
    effects past = .event (.accepted setup.peer) :: service ++
      [.endOutput, .event (.ended setup.peer (ending.failure.map LinkError.message))]
  /-- When it ended its output, all of its tasks were over, and they have stayed so. -/
  drained : ∃ early m late, past = early ++ m :: late ∧ m.shown = [.endOutput] ∧
    s.tasks = m.before.tasks ∧ Drained setup early s.tasks
  /-- A reply that could not be sent and so stopped it is that of an unknown target. -/
  unsent : ∀ i cause, .unanswered i cause ∈ endings setup past →
    ∃ t, s.tasks[i]? = some t ∧ t.handler = none ∧ t.stage = .reported (some cause)

/-- What the tasks are when all are over they are from then on. -/
theorem tasks_of_late (hregistry : setup.registry.Registered Method.ReportsRuns)
    {early late : List (Moment State Label Effect)} {m : Moment State Label Effect}
    (h : Run (step setup) (start permits) (early ++ m :: late) s)
    (hlate : m.before.phase.isLate = true) :
    s.tasks = m.before.tasks ∧ s.phase.isLate = true := by
  obtain ⟨hrun, hstep⟩ := h.split
  refine h.keep (P := fun t => t.tasks = m.before.tasks ∧ t.phase.isLate = true) ?_ ?_
  · exact (turn_of_run hregistry hrun hstep).tasks_of_late (phased_of_run hrun) hlate
  · intro front t t' label shown hfront hnext ht
    obtain ⟨htasks, hafter⟩ :=
      (turn_of_run hregistry hfront hnext).tasks_of_late (phased_of_run hfront) ht.2
    exact ⟨htasks.trans ht.1, hafter⟩

/-- The output of a connection ends at a moment at which all tasks are over. -/
theorem closing_of_endOutput (ht : Turn setup s s' shown) (hmem : .endOutput ∈ shown) :
    shown = [.endOutput] ∧ s.phase.isLate = true := by
  cases ht with
  | outside _ _ hshown =>
    rw [hshown] at hmem
    cases hmem
  | begins _ _ hshown =>
    rw [hshown] at hmem
    cases List.mem_singleton.mp hmem
  | serves _ _ hshown => cases hshown _ hmem
  | closes _ hphase _ _ hshown => exact ⟨hshown, by rw [hphase]; rfl⟩
  | ends _ _ _ _ hshown =>
    rw [hshown] at hmem
    cases List.mem_singleton.mp hmem

/-- The step at which it turns out that a reply could not be sent ends its task. -/
theorem task_of_unanswered (h : step setup s label = some (s', shown)) {i : Nat}
    {cause : LinkError} (hending : ending? setup ⟨s, label, s', shown⟩ = some (.unanswered i cause)) :
    ∃ request, s'.tasks[i]? = some ⟨request, none, .reported (some cause)⟩ := by
  have hunsent : s.unsent label = some (i, cause) := by
    unfold ending? at hending
    split at hending
    · cases hending
    · split at hending
      · cases hending
      · cases hending
        assumption
      · cases hending
  unfold State.unsent at hunsent
  split at hunsent
  · split at hunsent
    · next hphase =>
      split at hunsent
      · next request _ htask =>
        cases hunsent
        simp only [step, State.resume, hphase, htask, Option.some.injEq, Prod.mk.injEq] at h
        obtain ⟨rfl, _⟩ := h
        refine ⟨request, ?_⟩
        show (s.tasks.modify i _)[i]? = _
        rw [List.getElem?_modify_eq, htask]
        rfl
      · cases hunsent
    · cases hunsent
  · cases hunsent

/-- A reply that could not be sent is that of a request for an unknown target. -/
theorem unsent_of_run (h : Run (step setup) (start permits) past s) {i : Nat} {cause : LinkError}
    (hmem : .unanswered i cause ∈ endings setup past) :
    ∃ t, s.tasks[i]? = some t ∧ t.handler = none ∧ t.stage = .reported (some cause) := by
  obtain ⟨m, hm, hending⟩ := List.mem_filterMap.mp hmem
  obtain ⟨early, late, rfl⟩ := List.append_of_mem hm
  obtain ⟨hrun, hstep⟩ := h.split
  refine h.keep (P := fun t => ∃ u, t.tasks[i]? = some u ∧ u.handler = none ∧
    u.stage = .reported (some cause)) ?_ ?_
  · obtain ⟨request, hi⟩ := task_of_unanswered hstep hending
    exact ⟨_, hi, rfl, rfl⟩
  · rintro front t t' label shown hfront hnext ⟨u, hu, hhandler, hstage⟩
    exact ⟨u, stays_of_step (writing_of_run hfront) hnext hu (by rw [hstage]; rfl), hhandler,
      hstage⟩

/-- **Every connection that has ended has lived like that.** -/
theorem lived_of_run (hregistry : setup.registry.Registered Method.ReportsRuns)
    (h : Run (step setup) (start permits) past s) (hended : s.hasEnded = true) :
    Lived setup past s := by
  obtain ⟨failure, hphase⟩ := State.hasEnded_iff.mp hended
  have htold := told_of_run hregistry h
  generalize hall : effects past = all at htold
  cases htold with
  | nothing hother _ => cases hphase.symm.trans hother
  | serving _ hserving _ =>
    rw [hphase] at hserving
    cases hserving
  | closed _ _ hother _ => cases hphase.symm.trans hother
  | ended failure' service hsame hservice =>
    cases hphase.symm.trans hsame
    refine ⟨?_, ?_, fun i cause hmem => unsent_of_run h hmem⟩
    · have hendings := endings_of_run h
      rw [hphase] at hendings
      obtain ⟨ending, hending, rfl⟩ := List.map_eq_singleton_iff.mp hendings
      exact ⟨ending, service, hending, Ending.failure_eq_none, hservice, hall⟩
    · obtain ⟨m, hm, hmem⟩ : ∃ m ∈ past, .endOutput ∈ m.shown := by
        rw [← List.mem_flatMap]
        show _ ∈ effects past
        rw [hall]
        simp
      obtain ⟨early, late, rfl⟩ := List.append_of_mem hm
      obtain ⟨hrun, hstep⟩ := h.split
      obtain ⟨hshown, hlate⟩ := closing_of_endOutput (turn_of_run hregistry hrun hstep) hmem
      have htasks := (tasks_of_late hregistry h hlate).1
      exact ⟨early, m, late, rfl, hshown, htasks, htasks ▸ drained_of_run hrun hlate⟩

end RemoteCall.Connection
