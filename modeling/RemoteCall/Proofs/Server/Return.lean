import Mathlib.Algebra.GroupWithZero.Nat
import RemoteCall.Proofs.Server.Limit
import RemoteCall.Proofs.Server.Shutdown

/-!
# A server can always return

Shutting down never gets stuck.  A connection that knows of the shutdown and has not ended can take
a step that brings it nearer to its end, without anything that its peer would have to do: it stops
reading, or a task runs its handler, writes or reports.  What is left to do is counted (`State.rest`):
each request has so many stages before it, and so has the connection itself.  So there is always a
way to the end (`exists_end`), and from any state of a server a way to its return, one connection
after the other (`exists_return`).
-/

namespace RemoteCall.Connection

variable {setup : Setup} {s s' : State} {label : Label} {shown : List Effect} {permits : Nat}
  {past : List (Moment State Label Effect)} {i : Nat} {t : Task}

/-! ## What is left to do -/

/-- How many stages a task has before it. -/
def Stage.rest : Stage → Nat
  | waiting => 5
  | dispatched => 4
  | answered _ => 3
  | writing => 2
  | settled _ => 1
  | reported _ => 0

/-- How many phases a connection has before it that reads nothing more. -/
def Phase.rest : Phase → Nat
  | .starting => 5
  | .reading => 4
  | .busy _ => 4
  | .draining _ => 3
  | .closing _ => 2
  | .closed _ => 1
  | .ended _ => 0

/-- How much is left to do for a connection and its tasks. -/
def State.rest (s : State) : Nat :=
  s.phase.rest + (s.tasks.map fun t => t.stage.rest).sum

theorem sum_map_modify {α : Type} {l : List α} {f : α → α} {g : α → Nat} {i : Nat} {a : α}
    (h : l[i]? = some a) : ((l.modify i f).map g).sum + g a = (l.map g).sum + g (f a) := by
  induction l generalizing i with
  | nil => cases h
  | cons b l ih =>
    cases i with
    | zero =>
      cases h
      rw [List.modify_zero_cons, List.map_cons, List.map_cons, List.sum_cons, List.sum_cons]
      omega
    | succ i =>
      rw [List.modify_succ_cons, List.map_cons, List.map_cons, List.sum_cons, List.sum_cons]
      have := ih h
      omega

theorem rest_of_phase (htasks : s'.tasks = s.tasks) (hphase : s'.phase.rest < s.phase.rest) :
    s'.rest < s.rest := by
  rw [State.rest, State.rest, htasks]
  omega

theorem rest_of_setStage {stage : Stage} (hi : s.tasks[i]? = some t)
    (hstage : stage.rest < t.stage.rest) (htasks : s'.tasks = (s.setStage i stage).tasks)
    (hphase : s'.phase.rest ≤ s.phase.rest) : s'.rest < s.rest := by
  have hsum := @sum_map_modify _ s.tasks (fun t => { t with stage := stage })
    (fun t => t.stage.rest) i t hi
  simp only at hsum
  rw [State.rest, State.rest, htasks]
  show _ + ((s.tasks.modify i _).map _).sum < _
  omega

/-- Requests for unknown targets have their answers from the start. -/
def Preanswered (tasks : List Task) : Prop :=
  ∀ (i : Nat) (t : Task), tasks[i]? = some t → t.handler = none →
    t.stage ≠ .waiting ∧ t.stage ≠ .dispatched

theorem Preanswered.setStage {tasks : List Task} {stage : Stage} (h : Preanswered tasks)
    (hi : tasks[i]? = some t) (hstage : t.handler = none → stage ≠ .waiting ∧ stage ≠ .dispatched) :
    Preanswered (tasks.modify i fun t => { t with stage := stage }) := by
  intro j u hj hunknown
  obtain ⟨v, hv, rfl⟩ := getElem?_modify_eq_some hj
  by_cases hij : i = j
  · subst hij
    cases hi.symm.trans hv
    rw [if_pos rfl] at hunknown ⊢
    exact hstage hunknown
  · rw [if_neg hij] at hunknown ⊢
    exact h j v hv hunknown

theorem preanswered_step {request : Option Request} {task : Option Nat}
    {frame : Option (Nat × Bytes)} {bytes : Bytes} (hc : Change setup s request task frame bytes s')
    (hw : WritingFits s.tasks s.writing) (h : Preanswered s.tasks) : Preanswered s'.tasks := by
  cases hc with
  | quiet _ htasks _ _ => exact htasks ▸ h
  | took request _ _ htasks _ _ =>
    rw [htasks]
    intro j u hj hunknown
    rcases getElem?_append_singleton hj with hj | ⟨_, rfl⟩
    · exact h j u hj hunknown
    · rw [Setup.task] at hunknown ⊢
      split at hunknown
      · cases hunknown
      · simp
  | acquired i request method _ hi _ => exact h.setStage hi fun hunknown => by cases hunknown
  | ran i request method reply hi _ => exact h.setStage hi fun hunknown => by cases hunknown
  | began i t reply frame _ hi _ _ => exact h.setStage hi fun _ => by simp
  | gaveUp i t reply cause _ hi _ _ => exact h.setStage hi fun _ => by simp
  | wrote i n left _ _ _ => exact h
  | wroteLast i left hwriting =>
    obtain ⟨t, hi, _⟩ := hw.1 i bytes hwriting
    exact h.setStage hi fun _ => by simp
  | reported i request method failure hi => exact h.setStage hi fun hunknown => by cases hunknown
  | resumed i request failure _ hi => exact h.setStage hi fun _ => by simp

theorem preanswered_of_run (h : Run (step setup) (start permits) past s) : Preanswered s.tasks := by
  induction h with
  | start => exact fun _ _ hi => by cases hi
  | @snoc past s s' label shown hrun hstep ih =>
    have hw := writing_of_run hrun
    cases hbreaks : label.breaks with
    | false => exact preanswered_step (change_of_step hbreaks hstep) hw ih
    | true =>
      obtain ⟨i, left, cause, rfl, hwriting, rfl, rfl⟩ := failed_of_step hbreaks hstep
      obtain ⟨t, hi, _⟩ := hw.1 i left hwriting
      exact ih.setStage hi fun _ => by simp

/-! ## A step towards the end -/

/-- The connection can take a step, other than being told of the shutdown, that leaves less to
do. -/
def State.ComesNearer (setup : Setup) (s : State) : Prop :=
  ∃ label s' shown, label ≠ .shutdown ∧ step setup s label = some (s', shown) ∧ s'.rest < s.rest

/-- What the writer is at can go out as a whole. -/
theorem nearer_of_writing (h : Run (step setup) (start permits) past s) {left : Bytes}
    (hwriting : s.writing = some (i, left)) : s.ComesNearer setup := by
  obtain ⟨t, hi, hstage⟩ := (writing_of_run h).1 i left hwriting
  have hcurrent := (sending_of_run h).current
  rw [hwriting] at hcurrent
  obtain ⟨_, _, _, _, hne⟩ := hcurrent.of_writing
  refine ⟨.write left.length, { s.setStage i (.settled none) with writing := none },
    [.bytes left], by simp, ?_, ?_⟩
  · simp [step, State.write, hwriting, hne]
  · exact rest_of_setStage hi (by rw [hstage]; decide) rfl (Nat.le_refl _)

/-- A task that is not over and waits for no permit can go on. -/
theorem nearer_of_task (h : Run (step setup) (start permits) past s) (hi : s.tasks[i]? = some t)
    (hopen : t.stage.isOver = false) (hwaits : t.stage ≠ .waiting) : s.ComesNearer setup := by
  have hknown := preanswered_of_run h i t hi
  have hholds := (phased_of_run h).holds hi
  have hwriter := (writing_of_run h).2 i t hi
  obtain ⟨request, handler, stage⟩ := t
  cases stage with
  | waiting => exact absurd rfl hwaits
  | dispatched =>
    cases handler with
    | none => exact absurd rfl (hknown rfl).2
    | some method =>
      cases hinvoke : method.invoke request.method request.payload with
      | replied events reply =>
        refine ⟨.handle i, s.setStage i (.answered reply), events.map .event, by simp, ?_,
          rest_of_setStage hi (by simp [Stage.rest]) rfl (Nat.le_refl _)⟩
        simp only [step, State.handle, hi, hinvoke]
      | panicked =>
        refine ⟨.handle i, s.setStage i (.answered (.panicked request.method)), [], by simp, ?_,
          rest_of_setStage hi (by simp [Stage.rest]) rfl (Nat.le_refl _)⟩
        simp only [step, State.handle, hi, hinvoke]
  | answered reply =>
    cases hwriting : s.writing with
    | some current => exact nearer_of_writing h hwriting
    | none =>
      cases hframe : reply.frameOrSubstitute setup.frameLimit request.seq with
      | ok frame =>
        refine ⟨.takeWriter i, { s.setStage i .writing with writing := some (i, frame) }, [],
          by simp, ?_, rest_of_setStage hi (by simp [Stage.rest]) rfl (Nat.le_refl _)⟩
        simp only [step, State.takeWriter, hwriting, hi, hframe]
      | error cause =>
        refine ⟨.takeWriter i, s.setStage i (.settled (some cause)), [], by simp, ?_,
          rest_of_setStage hi (by simp [Stage.rest]) rfl (Nat.le_refl _)⟩
        simp only [step, State.takeWriter, hwriting, hi, hframe]
  | writing =>
    obtain ⟨left, hwriting⟩ := hwriter rfl
    exact nearer_of_writing h hwriting
  | settled failure =>
    cases handler with
    | some method =>
      refine ⟨.report i 0, { s.setStage i (.reported failure) with permits := s.permits + 1 },
        [.event (State.outcomeEvent request 0 failure)], by simp, ?_,
        rest_of_setStage hi (by simp [Stage.rest]) rfl (Nat.le_refl _)⟩
      simp only [step, State.report, hi]
    | none =>
      -- the connection is busy with it
      have hbusy := hholds rfl
      cases failure with
      | none =>
        refine ⟨.resume, { s.setStage i (.reported none) with phase := .reading }, [], by simp, ?_,
          rest_of_setStage hi (by simp [Stage.rest]) rfl (by simp [hbusy, Phase.rest])⟩
        simp only [step, State.resume, hbusy, hi]
      | some cause =>
        refine ⟨.resume, (s.setStage i (.reported (some cause))).stop (some cause), [], by simp, ?_,
          rest_of_setStage hi (by simp [Stage.rest]) rfl (by simp [hbusy, State.stop, Phase.rest])⟩
        simp only [step, State.resume, hbusy, hi]
  | reported failure => cases hopen

/-- A task that waits for a permit gets it, or one that has a permit can go on. -/
theorem nearer_of_waiting (h : Run (step setup) (start permits) past s) (hpermits : 1 ≤ permits)
    (hi : s.tasks[i]? = some t) (hwaits : t.stage = .waiting) : s.ComesNearer setup := by
  have hphased := phased_of_run h
  have hknown := preanswered_of_run h i t hi
  have hholds := hphased.holds hi
  obtain ⟨request, handler, stage⟩ := t
  cases hwaits
  cases handler with
  | none => exact absurd rfl (hknown rfl).1
  | some method =>
    have hbusy := hholds rfl
    by_cases hnone : s.permits = 0
    · have hpos : 0 < s.tasks.countP Task.isRunning := by
        have hsum := hphased.permits
        rw [State.running] at hsum
        omega
      obtain ⟨u, hu, hruns⟩ := List.countP_pos_iff.mp hpos
      obtain ⟨j, hj⟩ := List.getElem?_of_mem hu
      simp only [Task.isRunning, Bool.and_eq_true, Bool.not_eq_true', decide_eq_false_iff_not]
        at hruns
      exact nearer_of_task h hj hruns.1.2 hruns.2
    · refine ⟨.acquire, { s.setStage i .dispatched with permits := s.permits - 1, phase := .reading },
        [], by simp, ?_, rest_of_setStage hi (by simp [Stage.rest]) rfl (by simp [hbusy, Phase.rest])⟩
      simp only [step, State.acquire, hbusy, hi, if_neg hnone]

theorem nearer_of_open (h : Run (step setup) (start permits) past s) (hpermits : 1 ≤ permits)
    (hi : s.tasks[i]? = some t) (hopen : t.stage.isOver = false) : s.ComesNearer setup := by
  by_cases hwaits : t.stage = .waiting
  · exact nearer_of_waiting h hpermits hi hwaits
  · exact nearer_of_task h hi hopen hwaits

/-- **A connection that knows of the shutdown can always come nearer to its end.** -/
theorem nearer_of_shutdown (h : Run (step setup) (start permits) past s) (hpermits : 1 ≤ permits)
    (hshutdown : s.shutdown = true) (hended : s.hasEnded = false) : s.ComesNearer setup := by
  cases hphase : s.phase with
  | starting =>
    refine ⟨.announce, { s with phase := .reading }, [.event (.accepted setup.peer)], by simp, ?_,
      rest_of_phase rfl (by simp [hphase, Phase.rest])⟩
    simp only [step, hphase]
  | reading =>
    refine ⟨.notice, s.stop none, [], by simp, ?_,
      rest_of_phase rfl (by simp [hphase, State.stop, Phase.rest])⟩
    simp only [step, hphase, hshutdown, if_pos]
  | busy i =>
    obtain ⟨t, hi, hheld⟩ := (phased_of_run h).busy hphase
    refine nearer_of_open h hpermits hi ?_
    cases hover : t.stage.isOver with
    | false => rfl
    | true =>
      rw [Task.holdsReading] at hheld
      split at hheld
      · rw [of_decide_eq_true hheld] at hover
        cases hover
      · rw [hover] at hheld
        cases hheld
  | draining failure =>
    cases hdrained : s.isDrained with
    | true =>
      refine ⟨.drain, { s with phase := .closing failure }, [], by simp, ?_,
        rest_of_phase rfl (by simp [hphase, Phase.rest])⟩
      simp only [step, hphase, hdrained, if_pos]
    | false =>
      obtain ⟨t, ht, hopen⟩ := List.all_eq_false.mp hdrained
      obtain ⟨i, hi⟩ := List.getElem?_of_mem ht
      exact nearer_of_open h hpermits hi (Bool.eq_false_iff.mpr hopen)
  | closing failure =>
    refine ⟨.endOutput, { s with phase := .closed failure }, [.endOutput], by simp, ?_,
      rest_of_phase rfl (by simp [hphase, Phase.rest])⟩
    simp only [step, hphase]
  | closed failure =>
    refine ⟨.announceEnd, { s with phase := .ended failure },
      [.event (.ended setup.peer (failure.map LinkError.message))], by simp, ?_,
      rest_of_phase rfl (by simp [hphase, Phase.rest])⟩
    simp only [step, hphase]
  | ended failure =>
    rw [State.hasEnded, hphase] at hended
    cases hended

/-! ## The way to the end -/

/-- A shutdown is not taken back. -/
theorem shutdown_of_step (h : step setup s label = some (s', shown)) (hshutdown : s.shutdown = true) :
    s'.shutdown = true := by
  cases move_of_step h with
  | shuttingDown => rfl
  | took body rest e _ _ _ htake =>
    rw [eq_of_takeOver htake]
    exact hshutdown
  | _ => exact hshutdown

/-- **From where a connection knows of the shutdown there is a way to its end.** -/
theorem exists_end (h : Run (step setup) (start permits) past s) (hpermits : 1 ≤ permits)
    (hshutdown : s.shutdown = true) : ∃ later t, Run (step setup) s later t ∧
      (∀ m ∈ later, m.label ≠ .shutdown) ∧ t.hasEnded = true := by
  -- each step on the way leaves less to do
  induction hrest : s.rest using Nat.strongRecOn generalizing past s with
  | ind n ih =>
    cases hended : s.hasEnded with
    | true => exact ⟨[], s, .start, fun _ hm => (by cases hm), hended⟩
    | false =>
      obtain ⟨label, s', shown, hlabel, hstep, hless⟩ := nearer_of_shutdown h hpermits hshutdown hended
      obtain ⟨later, t, hlater, hlabels, ht⟩ := ih s'.rest (hrest ▸ hless) (h.snoc hstep)
        (shutdown_of_step hstep hshutdown) rfl
      refine ⟨[⟨s, label, s', shown⟩] ++ later, t, (Run.start.snoc hstep).append hlater, ?_, ht⟩
      intro m hm
      rcases List.mem_append.mp hm with hm | hm
      · cases List.mem_singleton.mp hm
        exact hlabel
      · exact hlabels m hm

end RemoteCall.Connection

namespace RemoteCall.Serving

variable {setup : Setup} {s s' : State} {label : Label} {shown : List Effect}
  {past : List (Moment State Label Effect)}

/-- All connections know when the server stops. -/
theorem shutdown_of_run (h : Run (step setup) start past s)
    (hstopped : s.phase.outcome?.isSome = true) : ∀ c ∈ s.connections, c.state.shutdown = true := by
  have hbegun : ∀ {s : State} {outcome : Option LinkError},
      ∀ c ∈ (s.beginStop outcome).connections, c.state.shutdown = true := by
    intro s outcome c hc
    obtain ⟨_, _, rfl⟩ := List.mem_map.mp hc
    rfl
  induction h with
  | start => cases hstopped
  | @snoc past s s' label shown hrun hstep ih =>
    cases move_of_step hstep with
    | signalled => exact ih hstopped
    | accepted _ _ hphase _ =>
      simp only [hphase] at hstopped
      cases hstopped
    | brokeDown _ _ _ => cases hstopped
    | retried _ _ _ => exact ih hstopped
    | paused _ _ _ => cases hstopped
    | gaveUp _ _ _ => exact hbegun
    | woke _ => cases hstopped
    | stopped _ _ => exact hbegun
    | went i c label state shown hi hgoes =>
      intro c' hc'
      rcases List.mem_or_eq_of_mem_set hc' with hc' | rfl
      · exact ih hstopped c' hc'
      · exact Connection.shutdown_of_step hgoes (ih hstopped c (List.mem_of_getElem? hi))
    | finished _ hphase _ => exact ih (by rw [hphase]; rfl)

/-- What a connection can do on its own it can do in the server. -/
theorem run_of_connection {i : Nat} {c : Served} (hi : s.connections[i]? = some c)
    {later : List (Moment Connection.State Connection.Label Connection.Effect)}
    {state : Connection.State}
    (h : Run (Connection.step (setup.connection c.peer)) c.state later state)
    (hlabels : ∀ m ∈ later, m.label ≠ .shutdown) : ∃ moments, Run (step setup) s moments
      { s with connections := s.connections.set i ⟨c.peer, state⟩ } := by
  induction h with
  | start =>
    have hsame : s.connections.set i ⟨c.peer, c.state⟩ = s.connections := by
      obtain ⟨hlt, rfl⟩ := List.getElem?_eq_some_iff.mp hi
      exact List.set_getElem_self hlt
    rw [hsame]
    exact ⟨[], .start⟩
  | @snoc later state state' label shown hlater hstep ih =>
    obtain ⟨moments, hmoments⟩ := ih fun m hm => hlabels m (List.mem_append_left _ hm)
    have hlabel : label ≠ .shutdown :=
      hlabels _ (List.mem_append_right _ (List.mem_singleton_self _))
    have hthere : (s.connections.set i ⟨c.peer, state⟩)[i]? = some ⟨c.peer, state⟩ :=
      List.getElem?_set_self (List.getElem?_eq_some_iff.mp hi).1
    have hgoes : step setup { s with connections := s.connections.set i ⟨c.peer, state⟩ }
        (.connection i label) = some ({ s with connections := s.connections.set i ⟨c.peer, state'⟩ },
          shown.map (.connection i)) := by
      have hstep' : State.connectionStep setup
          { s with connections := s.connections.set i ⟨c.peer, state⟩ } i label
          = some ({ s with connections := s.connections.set i ⟨c.peer, state'⟩ },
            shown.map (.connection i)) := by
        simp only [State.connectionStep, hthere, hstep, List.set_set]
      cases label with
      | shutdown => exact absurd rfl hlabel
      | _ => exact hstep'
    exact ⟨_, hmoments.snoc hgoes⟩

/-- **A server that stops can return**, one connection after the other. -/
theorem exists_return_of_stopping (h : Run (step setup) start past s)
    {outcome : Option LinkError} (hphase : s.phase = .stopping outcome) :
    ∃ later t, Run (step setup) s later t ∧ t.phase = .returned outcome := by
  -- each connection that is brought to its end is one less that has not ended
  induction hcount : s.connections.countP (fun c => !c.state.hasEnded) generalizing past s with
  | zero =>
    have hended : (s.connections.all fun c => c.state.hasEnded) = true := by
      rw [List.all_eq_true]
      intro c hc
      have := List.countP_eq_zero.mp hcount c hc
      simpa using this
    refine ⟨[⟨s, .finish, { s with phase := .returned outcome }, [.closeListener]⟩], _,
      Run.start.snoc ?_, rfl⟩
    simp only [step, hphase, hended, if_pos]
  | succ n ih =>
    have hpos : 0 < s.connections.countP fun c => !c.state.hasEnded := by omega
    obtain ⟨c, hc, hopen⟩ := List.countP_pos_iff.mp hpos
    obtain ⟨i, hi⟩ := List.getElem?_of_mem hc
    obtain ⟨permits, hpermits, hcourse⟩ := (run_course h i).2 c hi
    have hknows := shutdown_of_run h (by rw [hphase]; rfl) c hc
    obtain ⟨_, state, hway, hlabels, hended⟩ :=
      Connection.exists_end hcourse (ServerConfig.one_le_permits hpermits) hknows
    obtain ⟨moments, hmoments⟩ := run_of_connection hi hway hlabels
    have hless : (s.connections.set i ⟨c.peer, state⟩).countP (fun c => !c.state.hasEnded) = n := by
      obtain ⟨hlt, rfl⟩ := List.getElem?_eq_some_iff.mp hi
      rw [List.countP_set hlt, if_pos hopen, hended, hcount]
      rfl
    obtain ⟨later, t, hlater, ht⟩ := ih (h.append hmoments) hphase hless
    exact ⟨_, t, hmoments.append hlater, ht⟩

/-- A server that accepts can return once the signal comes. -/
theorem exists_return_of_accepting (h : Run (step setup) start past s)
    (hphase : s.phase = .accepting) :
    ∃ later t, Run (step setup) s later t ∧ t.phase = .returned none := by
  have hsignal : step setup s .signal = some ({ s with signalled := true }, []) := rfl
  have hstop : step setup { s with signalled := true } .stop
      = some (State.beginStop { s with signalled := true } none, []) := by
    simp only [step, hphase, if_pos]
  obtain ⟨later, t, hlater, ht⟩ :=
    exists_return_of_stopping ((h.snoc hsignal).snoc hstop) rfl
  exact ⟨_, t, ((Run.start.snoc hsignal).snoc hstop).append hlater, ht⟩

/-- **From every state of a server there is a way to its return**, unless it has broken down. -/
theorem exists_return (h : Run (step setup) start past s) (hphase : s.phase ≠ .brokenDown) :
    ∃ later t outcome, Run (step setup) s later t ∧ t.phase = .returned outcome := by
  cases hs : s.phase with
  | accepting =>
    obtain ⟨later, t, hlater, ht⟩ := exists_return_of_accepting h hs
    exact ⟨later, t, none, hlater, ht⟩
  | pausing =>
    have hwake : step setup s .wake = some ({ s with phase := .accepting }, []) := by
      simp only [step, hs]
    obtain ⟨later, t, hlater, ht⟩ := exists_return_of_accepting (h.snoc hwake) rfl
    exact ⟨_, t, none, (Run.start.snoc hwake).append hlater, ht⟩
  | stopping outcome =>
    obtain ⟨later, t, hlater, ht⟩ := exists_return_of_stopping h hs
    exact ⟨later, t, outcome, hlater, ht⟩
  | returned outcome => exact ⟨[], s, outcome, .start, hs⟩
  | brokenDown => exact absurd hs hphase

end RemoteCall.Serving
