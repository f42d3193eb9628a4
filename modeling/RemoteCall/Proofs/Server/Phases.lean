import RemoteCall.Proofs.Server.Books

/-!
# Where a connection stands

While the connection is busy with a request it reads nothing more, and it is busy with exactly the
request that waits for a permit, or whose target does not exist and whose answer is not settled.
Once it has stopped reading and all tasks are over nothing new can begin.  Permits are neither lost
nor made: those that are free and those of running tasks are together as many as at the start.
-/

namespace RemoteCall.Connection

/-- Whether the connection cannot read on before something happens to this task. -/
def Task.holdsReading (t : Task) : Bool :=
  match t.handler with
  | some _ => t.stage = .waiting
  | none => !t.stage.isOver

/-- Whether this task has a permit. -/
def Task.isRunning (t : Task) : Bool :=
  t.handler.isSome && !t.stage.isOver && !decide (t.stage = .waiting)

/-- How many tasks have a permit. -/
def State.running (s : State) : Nat :=
  s.tasks.countP Task.isRunning

/-- Whether the connection stopped reading and only comes to its end. -/
def Phase.isLate : Phase → Bool
  | .closing _ => true
  | .closed _ => true
  | .ended _ => true
  | _ => false

/-- Whether the connection has stopped because of a failure. -/
def Phase.hasFailed : Phase → Bool
  | .draining failure => failure.isSome
  | .closing failure => failure.isSome
  | .closed failure => failure.isSome
  | .ended failure => failure.isSome
  | _ => false

/-- How phase and tasks agree in a connection with so many permits. -/
structure Phased (permits : Nat) (s : State) : Prop where
  holds : ∀ {i : Nat} {t : Task}, s.tasks[i]? = some t → t.holdsReading = true →
    s.phase = .busy i
  busy : ∀ {i : Nat}, s.phase = .busy i → ∃ t, s.tasks[i]? = some t ∧ t.holdsReading = true
  drained : s.phase.isLate = true → ∀ {i : Nat} {t : Task}, s.tasks[i]? = some t →
    t.stage.isOver = true
  failed : ∀ {i : Nat} {t : Task} {cause : LinkError}, s.tasks[i]? = some t → t.handler = none →
    t.stage = .reported (some cause) → s.phase.hasFailed = true
  permits : s.permits + s.running = permits

theorem phased_start (permits : Nat) : Phased permits (start permits) where
  holds h := by cases h
  busy h := by cases h
  drained h := by cases h
  failed h := by cases h
  permits := rfl

variable {setup : Setup} {s s' : State} {permits : Nat} {r : Record}

theorem countP_modify {α : Type} {l : List α} {p : α → Bool} {f : α → α} {i : Nat} {a : α}
    (h : l[i]? = some a) : (l.modify i f).countP p + (if p a then 1 else 0)
      = l.countP p + if p (f a) then 1 else 0 := by
  induction l generalizing i with
  | nil => cases h
  | cons b l ih =>
    cases i with
    | zero =>
      cases h
      rw [List.modify_zero_cons, List.countP_cons, List.countP_cons]
      omega
    | succ i =>
      rw [List.modify_succ_cons, List.countP_cons, List.countP_cons]
      have := ih h
      omega

theorem late_of_moves (h : Moves s s'.phase) (hlate : s'.phase.isLate = true) :
    s.isDrained = true ∨ s.phase.isLate = true := by
  generalize s'.phase = phase at h hlate
  cases h with
  | stay => exact Or.inr hlate
  | begin _ => cases hlate
  | stop _ _ => cases hlate
  | drain _ _ hdrained => exact Or.inl hdrained
  | close _ hphase =>
    rw [hphase]
    exact Or.inr rfl
  | finish _ hphase =>
    rw [hphase]
    exact Or.inr rfl

theorem failed_of_moves (h : Moves s s'.phase) (hfailed : s.phase.hasFailed = true) :
    s'.phase.hasFailed = true := by
  generalize s'.phase = phase at h ⊢
  cases h with
  | stay => exact hfailed
  | begin hphase =>
    rw [hphase] at hfailed
    cases hfailed
  | stop _ hphase =>
    rw [hphase] at hfailed
    cases hfailed
  | drain _ hphase _ =>
    rw [hphase] at hfailed
    exact hfailed
  | close _ hphase =>
    rw [hphase] at hfailed
    exact hfailed
  | finish _ hphase =>
    rw [hphase] at hfailed
    exact hfailed

theorem busy_of_moves (h : Moves s s'.phase) {i : Nat} : s'.phase = .busy i ↔ s.phase = .busy i := by
  generalize s'.phase = phase at h ⊢
  cases h with
  | stay => exact Iff.rfl
  | begin hphase => simp [hphase]
  | stop _ hphase => simp [hphase]
  | drain _ hphase _ => simp [hphase]
  | close _ hphase => simp [hphase]
  | finish _ hphase => simp [hphase]

/-- How many permits a task has. -/
def Task.taken (t : Task) : Nat :=
  if t.isRunning then 1 else 0

theorem permits_setStage {i : Nat} {t : Task} {stage : Stage} (h : Phased permits s)
    (hi : s.tasks[i]? = some t) (htasks : s'.tasks = (s.setStage i stage).tasks)
    (htaken : s'.permits + { t with stage := stage }.taken = s.permits + t.taken) :
    s'.permits + s'.running = permits := by
  -- only this one task counts differently now
  have hcount := @countP_modify _ s.tasks Task.isRunning (fun t => { t with stage := stage }) i t hi
  have hsum := h.permits
  rw [Task.taken, Task.taken] at htaken
  rw [State.running] at hsum
  rw [State.running, htasks]
  show s'.permits + (s.tasks.modify i _).countP _ = _
  omega

/-- A task moves on, and the connection itself does nothing. -/
theorem Phased.advance {i : Nat} {t : Task} (stage : Stage) (h : Phased permits s)
    (hi : s.tasks[i]? = some t) (hwas : t.stage.isOver = false)
    (hnew : t.handler = none → stage.isOver = false)
    (hholds : { t with stage := stage }.holdsReading = t.holdsReading)
    (htaken : s'.permits + { t with stage := stage }.taken = s.permits + t.taken)
    (htasks : s'.tasks = (s.setStage i stage).tasks) (hphase : s'.phase = s.phase) :
    Phased permits s' := by
  have hback : ∀ {j : Nat} {u : Task}, s'.tasks[j]? = some u → ∃ v, s.tasks[j]? = some v ∧
      u = if i = j then { v with stage := stage } else v := by
    intro j u hj
    rw [htasks] at hj
    exact getElem?_modify_eq_some hj
  refine ⟨?_, ?_, ?_, ?_, permits_setStage h hi htasks htaken⟩
  · intro j u hj hu
    obtain ⟨v, hv, rfl⟩ := hback hj
    rw [hphase]
    by_cases hij : i = j
    · subst hij
      cases hi.symm.trans hv
      rw [if_pos rfl, hholds] at hu
      exact h.holds hi hu
    · rw [if_neg hij] at hu
      exact h.holds hv hu
  · intro j hj
    rw [hphase] at hj
    obtain ⟨u, hu, hheld⟩ := h.busy hj
    rw [htasks]
    by_cases hij : i = j
    · subst hij
      cases hi.symm.trans hu
      refine ⟨{ t with stage := stage }, ?_, hholds.trans hheld⟩
      show (s.tasks.modify i _)[i]? = _
      rw [List.getElem?_modify_eq, hi]
      rfl
    · exact ⟨u, (List.getElem?_modify_ne _ s.tasks hij).trans hu, hheld⟩
  · intro hlate
    rw [hphase] at hlate
    rw [h.drained hlate hi] at hwas
    cases hwas
  · intro j u cause hj hhandler hstage
    obtain ⟨v, hv, rfl⟩ := hback hj
    rw [hphase]
    by_cases hij : i = j
    · subst hij
      cases hi.symm.trans hv
      rw [if_pos rfl] at hhandler hstage
      have hover := hnew hhandler
      simp only at hstage
      rw [hstage] at hover
      cases hover
    · rw [if_neg hij] at hhandler hstage
      exact h.failed hv hhandler hstage

/-- The task with which the connection is busy moves on and lets it go on. -/
theorem Phased.release {i : Nat} {t : Task} (stage : Stage) (h : Phased permits s)
    (hi : s.tasks[i]? = some t) (hbusy : s.phase = .busy i)
    (hholds : { t with stage := stage }.holdsReading = false)
    (htaken : s'.permits + { t with stage := stage }.taken = s.permits + t.taken)
    (htasks : s'.tasks = (s.setStage i stage).tasks)
    (hfree : ∀ j, s'.phase ≠ .busy j) (hearly : s'.phase.isLate = false)
    (hfailed : ∀ cause, t.handler = none → stage = .reported (some cause) →
      s'.phase.hasFailed = true) : Phased permits s' := by
  have hback : ∀ {j : Nat} {u : Task}, s'.tasks[j]? = some u → ∃ v, s.tasks[j]? = some v ∧
      u = if i = j then { v with stage := stage } else v := by
    intro j u hj
    rw [htasks] at hj
    exact getElem?_modify_eq_some hj
  refine ⟨?_, ?_, ?_, ?_, permits_setStage h hi htasks htaken⟩
  · intro j u hj hu
    obtain ⟨v, hv, rfl⟩ := hback hj
    by_cases hij : i = j
    · subst hij
      cases hi.symm.trans hv
      rw [if_pos rfl, hholds] at hu
      cases hu
    · -- the connection was busy with the task that moves on, and with no other
      rw [if_neg hij] at hu
      have hother := h.holds hv hu
      rw [hbusy] at hother
      cases hother
      exact absurd rfl hij
  · intro j hj
    exact absurd hj (hfree j)
  · intro hlate
    rw [hearly] at hlate
    cases hlate
  · intro j u cause hj hhandler hstage
    obtain ⟨v, hv, rfl⟩ := hback hj
    by_cases hij : i = j
    · subst hij
      cases hi.symm.trans hv
      rw [if_pos rfl] at hhandler hstage
      exact hfailed cause hhandler hstage
    · rw [if_neg hij] at hhandler hstage
      have hold := h.failed hv hhandler hstage
      rw [hbusy] at hold
      cases hold

/-- What stays the same while a task that has its permit comes to its answer. -/
theorem held_taken_of_stage {t : Task} {stage : Stage} (hwas : t.stage.isOver = false)
    (hwaited : t.stage ≠ .waiting) (hnew : stage.isOver = false) (hwaits : stage ≠ .waiting) :
    { t with stage := stage }.holdsReading = t.holdsReading ∧
      { t with stage := stage }.taken = t.taken := by
  constructor
  · rw [Task.holdsReading, Task.holdsReading]
    cases t.handler with
    | none => simp [hwas, hnew]
    | some method => simp [hwaited, hwaits]
  · simp [Task.taken, Task.isRunning, hwas, hnew, hwaited, hwaits]

/-- A task that has its permit comes closer to its answer. -/
theorem Phased.proceed {i : Nat} {t : Task} (stage : Stage) (h : Phased permits s)
    (hi : s.tasks[i]? = some t) (hwas : t.stage.isOver = false) (hwaited : t.stage ≠ .waiting)
    (hnew : stage.isOver = false) (hwaits : stage ≠ .waiting) (hpermits : s'.permits = s.permits)
    (htasks : s'.tasks = (s.setStage i stage).tasks) (hphase : s'.phase = s.phase) :
    Phased permits s' := by
  obtain ⟨hheld, htaken⟩ := held_taken_of_stage hwas hwaited hnew hwaits
  exact h.advance stage hi hwas (fun _ => hnew) hheld (by rw [hpermits, htaken]) htasks hphase

/-- Only the connection itself moves. -/
theorem Phased.stay (h : Phased permits s) (hmoves : Moves s s'.phase) (htasks : s'.tasks = s.tasks)
    (hpermits : s'.permits = s.permits) : Phased permits s' := by
  refine ⟨?_, ?_, ?_, ?_, ?_⟩
  · intro i t hi ht
    rw [htasks] at hi
    exact (busy_of_moves hmoves).mpr (h.holds hi ht)
  · intro i hi
    rw [htasks]
    exact h.busy ((busy_of_moves hmoves).mp hi)
  · intro hlate i t hi
    rw [htasks] at hi
    rcases late_of_moves hmoves hlate with hdrained | hlate
    · exact List.all_eq_true.mp hdrained t (List.mem_of_getElem? hi)
    · exact h.drained hlate hi
  · intro i t cause hi hhandler hstage
    rw [htasks] at hi
    exact failed_of_moves hmoves (h.failed hi hhandler hstage)
  · rw [hpermits, State.running, htasks]
    exact h.permits

/-- A request is taken over, and the connection is busy with it. -/
theorem Phased.take (h : Phased permits s) (request : Request) (hreading : s.phase = .reading)
    (hbusy : s'.phase = .busy s.tasks.length)
    (htasks : s'.tasks = s.tasks ++ [setup.task request]) (hpermits : s'.permits = s.permits) :
    Phased permits s' := by
  have hnew : (setup.task request).holdsReading = true ∧
      (setup.task request).isRunning = false ∧ (setup.task request).stage.isOver = false := by
    unfold Setup.task
    split
    · exact ⟨rfl, rfl, rfl⟩
    · exact ⟨rfl, rfl, rfl⟩
  -- while the connection reads, no task holds it up
  have hnone : ∀ {i : Nat} {t : Task}, s.tasks[i]? = some t → t.holdsReading = false := by
    intro i t hi
    rw [Bool.eq_false_iff]
    intro ht
    have := h.holds hi ht
    rw [hreading] at this
    cases this
  refine ⟨?_, ?_, ?_, ?_, ?_⟩
  · intro i t hi ht
    rw [htasks] at hi
    rcases getElem?_append_singleton hi with hi | ⟨rfl, rfl⟩
    · rw [hnone hi] at ht
      cases ht
    · exact hbusy
  · intro i hi
    rw [hbusy] at hi
    cases hi
    refine ⟨setup.task request, ?_, hnew.1⟩
    rw [htasks, List.getElem?_concat_length]
  · intro hlate
    rw [hbusy] at hlate
    cases hlate
  · intro i t cause hi hhandler hstage
    rw [htasks] at hi
    rcases getElem?_append_singleton hi with hi | ⟨rfl, rfl⟩
    · have := h.failed hi hhandler hstage
      rw [hreading] at this
      cases this
    · rw [hstage] at hnew
      cases hnew.2.2
  · rw [hpermits, State.running, htasks, List.countP_append, List.countP_singleton, hnew.2.1]
    exact h.permits

/-- **Phase and tasks stay in step.** -/
theorem phased_step {request : Option Request} {task : Option Nat} {frame : Option (Nat × Bytes)}
    {bytes : Bytes} (hc : Change setup s request task frame bytes s')
    (hw : WritingFits s.tasks s.writing) (h : Phased permits s) : Phased permits s' := by
  cases hc with
  | quiet hmoves htasks hpermits _ => exact h.stay hmoves htasks hpermits
  | took request hreading hbusy htasks hpermits _ =>
    exact h.take request hreading hbusy htasks hpermits
  | acquired i request method hbusy hi hpermits =>
    -- the permit moves from the connection to the task
    refine h.release .dispatched hi hbusy rfl ?_ rfl (by simp) rfl (by simp)
    show s.permits - 1 + 1 = s.permits
    omega
  | ran i request method reply hi _ =>
    exact h.advance (.answered reply) hi rfl (by simp) rfl rfl rfl rfl
  | began i t reply frame _ hi hstage _ =>
    exact h.proceed .writing hi (by rw [hstage]; rfl) (by simp [hstage]) rfl (by simp) rfl rfl rfl
  | gaveUp i t reply cause _ hi hstage _ =>
    exact h.proceed (.settled (some cause)) hi (by rw [hstage]; rfl) (by simp [hstage]) rfl
      (by simp) rfl rfl rfl
  | wrote i n left _ _ _ => exact ⟨h.holds, h.busy, h.drained, h.failed, h.permits⟩
  | wroteLast i _ hwriting =>
    obtain ⟨t, hi, hstage⟩ := hw.1 i bytes hwriting
    exact h.proceed (.settled none) hi (by rw [hstage]; rfl) (by simp [hstage]) rfl (by simp) rfl
      rfl rfl
  | reported i request method failure hi =>
    exact h.advance (.reported failure) hi rfl (by simp) rfl rfl rfl rfl
  | resumed i request failure hbusy hi =>
    refine h.release (.reported failure) hi hbusy rfl rfl rfl ?_ ?_ ?_
    · intro j
      cases failure <;> simp [resumed]
    · cases failure <;> rfl
    · intro cause _ hstage
      cases hstage
      rfl

/-- **Phase and tasks agree after every run**, also one in which writing fails. -/
theorem phased_of_run {past : List (Moment State Label Effect)}
    (h : Run (step setup) (start permits) past s) : Phased permits s := by
  induction h with
  | start => exact phased_start permits
  | @snoc past s s' label shown hrun hstep ih =>
    have hw := writing_of_run hrun
    cases hbreaks : label.breaks with
    | false => exact phased_step (change_of_step hbreaks hstep) hw ih
    | true =>
      obtain ⟨i, left, cause, rfl, hwriting, rfl, rfl⟩ := failed_of_step hbreaks hstep
      obtain ⟨t, hi, hstage⟩ := hw.1 i left hwriting
      exact ih.proceed (.settled (some cause)) hi (by rw [hstage]; rfl) (by simp [hstage]) rfl
        (by simp) rfl rfl rfl

end RemoteCall.Connection
