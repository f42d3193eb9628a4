import RemoteCall.Proofs.Server.Responses

/-!
# The limit on requests in flight

A connection has a number of permits, and a dispatched task keeps one until it has reported how its
answer fared.  `phased_of_run` says that none is lost and none is made, whatever happens to a task:
its handler may answer, fail or panic, and its frame may go out, not exist or break off.

When all permits are taken, the next request whose target exists waits, and with it the connection:
it reads nothing more, so whatever came behind stays unread and unanswered, and everything that
still happens is done by tasks that have a permit (`Held`).  `limited_of_run` puts this together.
-/

namespace RemoteCall

/-- A connection has at least one permit, whatever the settings. -/
theorem ServerConfig.one_le_permits {config : ServerConfig} {permits : Nat}
    (h : config.permits? = some permits) : 1 ≤ permits := by
  unfold permits? at h
  split at h
  · cases h
    exact config.one_le_maxInFlight
  · cases h

namespace Connection

/-! ## What is counted -/

/-- Whether this request has a target and waits for a permit. -/
def Task.waits (t : Task) : Bool :=
  t.handler.isSome && decide (t.stage = .waiting)

/-- Whether the answer is neither out nor given up. -/
def Stage.isOpen : Stage → Bool
  | waiting => true
  | dispatched => true
  | answered _ => true
  | writing => true
  | settled _ => false
  | reported _ => false

/-- Whether this task was dispatched, and its answer is neither out nor given up. -/
def Task.isUnanswered (t : Task) : Bool :=
  t.isRunning && t.stage.isOpen

/-- The task whose step this is: it runs its handler, answers, or reports. -/
def State.mover (s : State) : Label → Option Nat
  | .handle i => some i
  | .takeWriter i => some i
  | .write _ => s.writing.map Prod.fst
  | .failWrite _ => s.writing.map Prod.fst
  | .report i _ => some i
  | _ => none

/-- What can happen while a request waits for a permit. -/
structure Held (m : Moment State Label Effect) : Prop where
  /-- No frame is read. -/
  unread : m.label ≠ .read ∧ ∀ cause, m.label ≠ .failRead cause
  /-- What arrived stays as it is, and more may arrive behind it. -/
  inbox : m.before.inbox <+: m.after.inbox
  /-- No request is added. -/
  requests : m.after.tasks.map Task.request = m.before.tasks.map Task.request
  /-- Only tasks with a permit run their handlers, answer and report. -/
  movers : ∀ i, m.before.mover m.label = some i →
    ∃ t, m.before.tasks[i]? = some t ∧ t.isRunning = true
  /-- Nobody else shows anything. -/
  shown : m.before.mover m.label = none → m.shown = []

/-- What the limit means for a run and the state that it led to. -/
structure Limited (setup : Setup) (limit : Nat) (past : List (Moment State Label Effect))
    (s : State) : Prop where
  /-- No permit is lost or made. -/
  conserved : s.permits + s.running = limit
  /-- No more requests than the limit are dispatched and not answered. -/
  within : s.tasks.countP Task.isUnanswered ≤ limit
  /-- Only the request that was read last can wait for a permit, and the connection is busy with
  it. -/
  last : ∀ {i : Nat} {t : Task}, s.tasks[i]? = some t → t.waits = true →
    s.phase = .busy i ∧ i + 1 = s.tasks.length
  /-- So no more than one waits. -/
  one : s.tasks.countP Task.waits ≤ 1
  /-- While it waits, nothing else comes to the connection. -/
  held : ∀ m ∈ past, (∃ t ∈ m.before.tasks, t.waits = true) → Held m
  /-- It can get a permit as soon as one is free, and as long as none is, some task has one. -/
  granted : (∃ t ∈ s.tasks, t.waits = true) →
    (∃ s', step setup s .acquire = some (s', [])) ∨ ∃ t ∈ s.tasks, t.isRunning = true
  /-- When no task has a permit, all permits are free. -/
  restored : (∀ t ∈ s.tasks, t.isRunning = false) → s.permits = limit

variable {setup : Setup} {s s' : State} {shown : List Effect} {label : Label} {limit : Nat}

/-! ## The request that was read last -/

/-- The connection can only be busy with the request that was read last. -/
def State.BusyWithLast (s : State) : Prop :=
  ∀ i, s.phase = .busy i → i + 1 = s.tasks.length

theorem busyWithLast_of_stays {stage : Stage} {i : Nat} (h : s.BusyWithLast)
    (htasks : s'.tasks = (s.setStage i stage).tasks) (hphase : s'.phase = s.phase) :
    s'.BusyWithLast := by
  intro j hj
  rw [hphase] at hj
  rw [htasks, State.setStage, List.length_modify]
  exact h j hj

theorem busyWithLast_of_free (h : ∀ i, s.phase ≠ .busy i) : s.BusyWithLast :=
  fun i hi => absurd hi (h i)

theorem busyWithLast_step {request : Option Request} {task : Option Nat}
    {frame : Option (Nat × Bytes)} {bytes : Bytes} (hc : Change setup s request task frame bytes s')
    (h : s.BusyWithLast) : s'.BusyWithLast := by
  cases hc with
  | quiet hmoves htasks _ _ =>
    intro i hi
    rw [htasks]
    exact h i ((busy_of_moves hmoves).mp hi)
  | took request _ hbusy htasks _ _ =>
    intro i hi
    cases hbusy.symm.trans hi
    rw [htasks, List.length_append, List.length_singleton]
  | acquired i request method _ _ _ => exact busyWithLast_of_free (by simp)
  | ran i request method reply _ _ => exact busyWithLast_of_stays h rfl rfl
  | began i t reply frame _ _ _ _ => exact busyWithLast_of_stays h rfl rfl
  | gaveUp i t reply cause _ _ _ _ => exact busyWithLast_of_stays h rfl rfl
  | wrote i n left _ _ _ => exact h
  | wroteLast i _ _ => exact busyWithLast_of_stays h rfl rfl
  | reported i request method failure _ => exact busyWithLast_of_stays h rfl rfl
  | resumed i request failure _ _ =>
    refine busyWithLast_of_free ?_
    cases failure <;> simp [resumed]

theorem busyWithLast_of_run {past : List (Moment State Label Effect)}
    (h : Run (step setup) (start limit) past s) : s.BusyWithLast := by
  induction h with
  | start => exact busyWithLast_of_free (by simp [start])
  | @snoc past s s' label shown hrun hstep ih =>
    cases hbreaks : label.breaks with
    | false => exact busyWithLast_step (change_of_step hbreaks hstep) ih
    | true =>
      obtain ⟨i, left, cause, rfl, _, rfl, rfl⟩ := failed_of_step hbreaks hstep
      exact busyWithLast_of_stays ih rfl rfl

/-! ## While a request waits -/

theorem Task.waits_iff {t : Task} :
    t.waits = true ↔ t.handler.isSome = true ∧ t.stage = .waiting := by
  rw [Task.waits, Bool.and_eq_true, decide_eq_true_iff]

theorem Phased.busy_of_waits (h : Phased limit s) {i : Nat} {t : Task}
    (hi : s.tasks[i]? = some t) (ht : t.waits = true) : s.phase = .busy i := by
  obtain ⟨hhandler, hstage⟩ := Task.waits_iff.mp ht
  obtain ⟨method, hmethod⟩ := Option.isSome_iff_exists.mp hhandler
  refine h.holds hi ?_
  rw [Task.holdsReading, hmethod]
  simp [hstage]

/-- Any other task that is not over has a permit: one without a handler would keep the connection
busy with itself. -/
theorem Phased.running_of_waits (h : Phased limit s) {i j : Nat} {t u : Task}
    (hi : s.tasks[i]? = some t) (ht : t.waits = true) (hj : s.tasks[j]? = some u)
    (hwaits : u.stage ≠ .waiting) (hover : u.stage.isOver = false) : u.isRunning = true := by
  cases hhandler : u.handler with
  | some method => simp [Task.isRunning, hhandler, hwaits, hover]
  | none =>
    have hheld : u.holdsReading = true := by
      rw [Task.holdsReading, hhandler]
      simp [hover]
    have hbusy := h.holds hj hheld
    rw [h.busy_of_waits hi ht] at hbusy
    cases hbusy
    cases hi.symm.trans hj
    exact absurd (Task.waits_iff.mp ht).2 hwaits

/-- A task that takes a step has had its permit, and is not over. -/
theorem mover_of_step (hw : WritingFits s.tasks s.writing)
    (h : step setup s label = some (s', shown)) {i : Nat} (hi : s.mover label = some i) :
    ∃ t, s.tasks[i]? = some t ∧ t.stage ≠ .waiting ∧ t.stage.isOver = false := by
  have hwriter : ∀ {j : Nat} {left : Bytes}, s.writing = some (j, left) →
      s.writing.map Prod.fst = some i →
      ∃ t, s.tasks[i]? = some t ∧ t.stage ≠ .waiting ∧ t.stage.isOver = false := by
    intro j left hwriting hmover
    rw [hwriting] at hmover
    cases hmover
    obtain ⟨t, ht, hstage⟩ := hw.1 j left hwriting
    exact ⟨t, ht, by simp [hstage], by rw [hstage]; rfl⟩
  cases move_of_step h with
  | ran j request method events reply hj _ =>
    cases hi
    exact ⟨_, hj, by simp, rfl⟩
  | panicked j request method hj _ =>
    cases hi
    exact ⟨_, hj, by simp, rfl⟩
  | began j t reply frame _ hj hstage _ =>
    cases hi
    exact ⟨t, hj, by simp [hstage], by rw [hstage]; rfl⟩
  | gaveUp j t reply cause _ hj hstage _ =>
    cases hi
    exact ⟨t, hj, by simp [hstage], by rw [hstage]; rfl⟩
  | wrote j n left hwriting _ _ => exact hwriter hwriting hi
  | wroteLast j n left hwriting => exact hwriter hwriting hi
  | writeFailed j left cause hwriting => exact hwriter hwriting hi
  | reported j nanos request method failure hj =>
    cases hi
    exact ⟨_, hj, by simp, rfl⟩
  | _ => cases hi

/-- What a busy connection does apart from its tasks. -/
theorem quiet_of_busy {i : Nat} (hphase : s.phase = .busy i)
    (h : step setup s label = some (s', shown)) :
    (label ≠ .read ∧ ∀ cause, label ≠ .failRead cause) ∧ s.inbox <+: s'.inbox ∧
      s'.tasks.map Task.request = s.tasks.map Task.request ∧
      (s.mover label = none → shown = []) := by
  have hmodify : ∀ j stage, (s.setStage j stage).tasks.map Task.request
      = s.tasks.map Task.request := fun j stage => map_request_modify s.tasks j stage
  cases move_of_step h with
  | arrived bytes _ => exact ⟨by simp, List.prefix_append _ _, rfl, fun _ => rfl⟩
  | inputOver => exact ⟨by simp, List.prefix_rfl, rfl, fun _ => rfl⟩
  | shuttingDown => exact ⟨by simp, List.prefix_rfl, rfl, fun _ => rfl⟩
  | acquired j _ _ _ _ _ => exact ⟨by simp, List.prefix_rfl, hmodify j _, fun _ => rfl⟩
  | resumed j _ _ _ => exact ⟨by simp, List.prefix_rfl, hmodify j _, fun _ => rfl⟩
  | notResumed j _ _ _ _ => exact ⟨by simp, List.prefix_rfl, hmodify j _, fun _ => rfl⟩
  | ran j _ _ _ _ _ _ => exact ⟨by simp, List.prefix_rfl, hmodify j _, nofun⟩
  | panicked j _ _ _ _ => exact ⟨by simp, List.prefix_rfl, hmodify j _, nofun⟩
  | began j _ _ _ _ _ _ _ => exact ⟨by simp, List.prefix_rfl, hmodify j _, nofun⟩
  | gaveUp j _ _ _ _ _ _ _ => exact ⟨by simp, List.prefix_rfl, hmodify j _, nofun⟩
  | wrote j n left hwriting _ _ =>
    exact ⟨by simp, List.prefix_rfl, rfl, by simp [State.mover, hwriting]⟩
  | wroteLast j n left hwriting =>
    exact ⟨by simp, List.prefix_rfl, hmodify j _, by simp [State.mover, hwriting]⟩
  | writeFailed j left _ hwriting => exact ⟨by simp, List.prefix_rfl, hmodify j _, fun _ => rfl⟩
  | reported j _ _ _ _ _ => exact ⟨by simp, List.prefix_rfl, hmodify j _, nofun⟩
  -- everything else is done in another phase
  | accepted hother => cases hphase.symm.trans hother
  | noticed hother _ => cases hphase.symm.trans hother
  | took _ _ _ hother _ _ _ => cases hphase.symm.trans hother
  | badFrame _ _ _ hother _ _ => cases hphase.symm.trans hother
  | tooLarge _ _ hother _ => cases hphase.symm.trans hother
  | noMore hother _ _ => cases hphase.symm.trans hother
  | readFailed _ hother => cases hphase.symm.trans hother
  | drained _ hother _ => cases hphase.symm.trans hother
  | outputEnded _ hother => cases hphase.symm.trans hother
  | announcedEnd _ hother => cases hphase.symm.trans hother

theorem held_of_step (hw : WritingFits s.tasks s.writing) (hphased : Phased limit s)
    (h : step setup s label = some (s', shown)) {i : Nat} {t : Task} (hi : s.tasks[i]? = some t)
    (ht : t.waits = true) : Held ⟨s, label, s', shown⟩ := by
  obtain ⟨hunread, hinbox, hrequests, hshown⟩ := quiet_of_busy (hphased.busy_of_waits hi ht) h
  refine ⟨hunread, hinbox, hrequests, ?_, hshown⟩
  intro j hj
  obtain ⟨u, hu, hwaits, hover⟩ := mover_of_step hw h hj
  exact ⟨u, hu, hphased.running_of_waits hi ht hu hwaits hover⟩

/-! ## The limit -/

/-- What is true of one place at most is counted once at most. -/
theorem countP_le_one {α : Type} {l : List α} {p : α → Bool} {k : Nat}
    (h : ∀ i a, l[i]? = some a → p a = true → i = k) : l.countP p ≤ 1 := by
  induction l generalizing k with
  | nil => exact Nat.zero_le 1
  | cons a l ih =>
    rw [List.countP_cons]
    by_cases ha : p a = true
    · -- the place is the front, so nothing is counted behind it
      have hk := h 0 a rfl ha
      have hrest : l.countP p = 0 := by
        rw [List.countP_eq_zero]
        intro b hb hpb
        obtain ⟨i, hi⟩ := List.getElem?_of_mem hb
        have := h (i + 1) b hi hpb
        omega
      simp [hrest, ha]
    · have hrest := @ih (k - 1) fun i b hi hb => by
        have := h (i + 1) b hi hb
        omega
      simpa [ha] using hrest

/-- A waiting request gets its permit as soon as one is free. -/
theorem acquire_of_waits (hphased : Phased limit s) {i : Nat} {t : Task}
    (hi : s.tasks[i]? = some t) (ht : t.waits = true) (hpermits : s.permits ≠ 0) :
    ∃ s', step setup s .acquire = some (s', []) := by
  have hbusy := hphased.busy_of_waits hi ht
  obtain ⟨hhandler, hstage⟩ := Task.waits_iff.mp ht
  obtain ⟨request, handler, stage⟩ := t
  obtain ⟨method, rfl⟩ := Option.isSome_iff_exists.mp hhandler
  cases hstage
  refine ⟨{ s.setStage i .dispatched with permits := s.permits - 1, phase := .reading }, ?_⟩
  show s.acquire = _
  rw [State.acquire, hbusy]
  simp only [hi, if_neg hpermits]

/-- **The limit on requests in flight holds at all times, and all permits come back**, whatever
arrives, however handlers end and whether or not their answers can be written. -/
theorem limited_of_run {past : List (Moment State Label Effect)} (hlimit : 1 ≤ limit)
    (h : Run (step setup) (start limit) past s) : Limited setup limit past s := by
  have hphased := phased_of_run h
  have hbusy := busyWithLast_of_run h
  have hlast : ∀ {i : Nat} {t : Task}, s.tasks[i]? = some t → t.waits = true →
      s.phase = .busy i ∧ i + 1 = s.tasks.length := fun hi ht =>
    have hphase := hphased.busy_of_waits hi ht
    ⟨hphase, hbusy _ hphase⟩
  refine ⟨hphased.permits, ?_, hlast, ?_, ?_, ?_, ?_⟩
  · have hle : s.tasks.countP Task.isUnanswered ≤ s.running :=
      List.countP_mono_left fun t _ ht => (Bool.and_eq_true_iff.mp ht).1
    have := hphased.permits
    omega
  · exact countP_le_one fun i t hi ht => show i = s.tasks.length - 1 by
      have := (hlast hi ht).2
      omega
  · rintro m hm ⟨t, ht, hwaits⟩
    obtain ⟨early, late, rfl⟩ := List.append_of_mem hm
    obtain ⟨hrun, hstep⟩ := h.split
    obtain ⟨i, hi⟩ := List.getElem?_of_mem ht
    exact held_of_step (writing_of_run hrun) (phased_of_run hrun) hstep hi hwaits
  · rintro ⟨t, ht, hwaits⟩
    obtain ⟨i, hi⟩ := List.getElem?_of_mem ht
    by_cases hpermits : s.permits = 0
    · -- all permits are taken, and there is at least one
      have hpos : 0 < s.tasks.countP Task.isRunning := by
        have hsum := hphased.permits
        rw [State.running] at hsum
        omega
      exact Or.inr (List.countP_pos_iff.mp hpos)
    · exact Or.inl (acquire_of_waits hphased hi hwaits hpermits)
  · intro hnone
    have hzero : s.running = 0 := by
      rw [State.running, List.countP_eq_zero]
      intro t ht
      rw [hnone t ht]
      exact Bool.false_ne_true
    have := hphased.permits
    omega

/-- Four requests arrive at a connection with two permits: the second makes its handler panic and its
answer breaks off, the third waits for its permit, and the last has no target. -/
def crowdedLabels : List Label :=
  [.announce, .arrive (requestBytes "A.B" 5 [1] ++ requestBytes "A.C" 6 [] ++
      requestBytes "A.B" 7 [3] ++ requestBytes "X.Y" 8 []),
    .read, .acquire, .read, .acquire, .read, .handle 1, .takeWriter 1, .write 10,
    .failWrite .closed, .handle 0, .report 1 0, .acquire, .read, .takeWriter 3, .write 72, .resume,
    .handle 2, .takeWriter 2, .write 47, .takeWriter 0, .write 47, .report 0 0, .report 2 0]

theorem limited_of_crowded_run : ∃ past s,
    Run (step ((sampleServing 150).connection "peer")) (start 2) past s ∧
      (past.any fun m => m.before.tasks.any Task.waits && m.before.permits == 0) = true ∧
      (s.tasks.length, s.running, s.permits) = (4, 0, 2) ∧
      Limited ((sampleServing 150).connection "peer") 2 past s := by
  have hruns : (replay (step ((sampleServing 150).connection "peer")) (start 2) crowdedLabels).map
      (fun r => (r.1.any fun m => m.before.tasks.any Task.waits && m.before.permits == 0,
        r.2.tasks.length, r.2.running, r.2.permits)) = some (true, 4, 0, 2) := by decide +kernel
  obtain ⟨⟨past, s⟩, hreplay, hvalues⟩ := Option.map_eq_some_iff.mp hruns
  obtain ⟨hwaited, hcounts⟩ := Prod.mk.injEq _ _ _ _ ▸ hvalues
  have hrun := Run.of_replay hreplay
  exact ⟨past, s, hrun, hwaited, hcounts, limited_of_run (by decide) hrun⟩

end Connection

end RemoteCall
