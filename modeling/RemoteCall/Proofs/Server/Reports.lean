import RemoteCall.Proofs.Server.Sends

/-!
# What tasks report

A dispatched task that is over has reported how its answer fared, and no task reports twice
(`Reported`).  What it reports is what became of its frame: the frame is out as a whole, or it broke
off, or there was none (`Resolved`).  Once the connection closes, that is true of all of its tasks
(`Drained`).
-/

namespace RemoteCall.Connection

variable {setup : Setup} {s s' : State} {label : Label} {shown : List Effect} {permits : Nat}
  {past : List (Moment State Label Effect)}

/-! ## Tasks that are over -/

theorem stays_of_setStage {i j : Nat} {t u : Task} {stage : Stage} (hj : s.tasks[j]? = some u)
    (hover : u.stage.isOver = true) (hi : s.tasks[i]? = some t) (hopen : t.stage.isOver = false) :
    (s.setStage i stage).tasks[j]? = some u := by
  refine (List.getElem?_modify_ne _ s.tasks ?_).trans hj
  rintro rfl
  cases hi.symm.trans hj
  rw [hover] at hopen
  cases hopen

/-- A task that is over stays as it is. -/
theorem stays_of_step (hw : WritingFits s.tasks s.writing)
    (h : step setup s label = some (s', shown)) {j : Nat} {u : Task} (hj : s.tasks[j]? = some u)
    (hover : u.stage.isOver = true) : s'.tasks[j]? = some u := by
  cases move_of_step h with
  | took body rest e _ _ _ htake =>
    have hbusy := eq_of_takeOver htake
    rw [hbusy, List.getElem?_append_left (List.getElem?_eq_some_iff.mp hj).1]
    exact hj
  | acquired i _ _ _ hi _ => exact stays_of_setStage hj hover hi rfl
  | resumed i _ _ hi => exact stays_of_setStage hj hover hi rfl
  | notResumed i _ _ _ hi => exact stays_of_setStage hj hover hi rfl
  | ran i _ _ _ _ hi _ => exact stays_of_setStage hj hover hi rfl
  | panicked i _ _ hi _ => exact stays_of_setStage hj hover hi rfl
  | began i _ _ _ _ hi hstage _ => exact stays_of_setStage hj hover hi (by rw [hstage]; rfl)
  | gaveUp i _ _ _ _ hi hstage _ => exact stays_of_setStage hj hover hi (by rw [hstage]; rfl)
  | wroteLast i n left hwriting =>
    obtain ⟨t, hi, hstage⟩ := hw.1 i left hwriting
    exact stays_of_setStage hj hover hi (by rw [hstage]; rfl)
  | writeFailed i left cause hwriting =>
    obtain ⟨t, hi, hstage⟩ := hw.1 i left hwriting
    exact stays_of_setStage hj hover hi (by rw [hstage]; rfl)
  | reported i _ _ _ _ hi => exact stays_of_setStage hj hover hi rfl
  | _ => exact hj

theorem over_of_setStage {i j : Nat} {u : Task} {stage : Stage}
    (hj : (s.setStage i stage).tasks[j]? = some u) (hover : u.stage.isOver = true) :
    s.tasks[j]? = some u ∨ i = j ∧ stage.isOver = true ∧
      ∃ t, s.tasks[i]? = some t ∧ u = { t with stage := stage } := by
  obtain ⟨v, hv, rfl⟩ := getElem?_modify_eq_some hj
  by_cases hij : i = j
  · subst hij
    rw [if_pos rfl] at hover ⊢
    exact Or.inr ⟨rfl, hover, v, hv, rfl⟩
  · rw [if_neg hij]
    exact Or.inl hv

/-- The report that a task makes at a moment. -/
def report? (m : Moment State Label Effect) : Option (Nat × Event) :=
  match m.label, m.shown with
  | .report i _, [.event event] => some (i, event)
  | _, _ => none

/-- The reports of a run, each with the number of its task. -/
def reports (past : List (Moment State Label Effect)) : List (Nat × Event) :=
  past.filterMap report?

/-- Whether this task was dispatched and is over. -/
def Task.hasReported (t : Task) : Bool :=
  t.handler.isSome && t.stage.isOver

/-- A dispatched task is over only once it has reported. -/
theorem over_of_step (h : step setup s label = some (s', shown)) {j : Nat} {u : Task}
    (hj : s'.tasks[j]? = some u) (hdone : u.hasReported = true) : s.tasks[j]? = some u ∨
      ∃ event, report? ⟨s, label, s', shown⟩ = some (j, event) := by
  obtain ⟨hhandler, hover⟩ := Bool.and_eq_true_iff.mp hdone
  have hopen : ∀ {i : Nat} {stage : Stage}, stage.isOver = false →
      (s.setStage i stage).tasks[j]? = some u → s.tasks[j]? = some u := by
    intro i stage hstage hj
    rcases over_of_setStage hj hover with hj | ⟨_, hover, _⟩
    · exact hj
    · rw [hstage] at hover
      cases hover
  -- the task of an unknown target was not dispatched
  have hunknown : ∀ {i : Nat} {stage was : Stage} {request : Request},
      s.tasks[i]? = some ⟨request, none, was⟩ → (s.setStage i stage).tasks[j]? = some u →
      s.tasks[j]? = some u := by
    intro i stage was request hi hj
    rcases over_of_setStage hj hover with hj | ⟨_, _, t, ht, rfl⟩
    · exact hj
    · cases hi.symm.trans ht
      cases hhandler
  cases move_of_step h with
  | took body rest e _ _ _ htake =>
    have hbusy := eq_of_takeOver htake
    rw [hbusy] at hj
    rcases getElem?_append_singleton hj with hj | ⟨_, rfl⟩
    · exact Or.inl hj
    · rw [Setup.task] at hover
      split at hover <;> cases hover
  | acquired i _ _ _ _ _ => exact Or.inl (hopen rfl hj)
  | resumed i _ _ hi => exact Or.inl (hunknown hi hj)
  | notResumed i _ _ _ hi => exact Or.inl (hunknown hi hj)
  | ran i _ _ _ _ _ _ => exact Or.inl (hopen rfl hj)
  | panicked i _ _ _ _ => exact Or.inl (hopen rfl hj)
  | began i _ _ _ _ _ _ _ => exact Or.inl (hopen rfl hj)
  | gaveUp i _ _ _ _ _ _ _ => exact Or.inl (hopen rfl hj)
  | wroteLast i _ _ _ => exact Or.inl (hopen rfl hj)
  | writeFailed i _ _ _ => exact Or.inl (hopen rfl hj)
  | reported i nanos request method failure _ =>
    refine (over_of_setStage hj hover).imp_right ?_
    rintro ⟨rfl, _⟩
    exact ⟨_, rfl⟩
  | _ => exact Or.inl hj

/-- A report is that of a dispatched task, which it ends. -/
theorem report_of_step (h : step setup s label = some (s', shown)) {i : Nat} {event : Event}
    (hreport : report? ⟨s, label, s', shown⟩ = some (i, event)) :
    ∃ t nanos failure, s.tasks[i]? = some t ∧ t.hasReported = false ∧
      s'.tasks[i]? = some { t with stage := .reported failure } ∧ t.handler.isSome = true ∧
      event = State.outcomeEvent t.request nanos failure := by
  cases move_of_step h with
  | reported j nanos request method failure hj =>
    cases hreport
    refine ⟨_, nanos, failure, hj, rfl, ?_, rfl, rfl⟩
    show (s.tasks.modify i _)[i]? = _
    rw [List.getElem?_modify_eq, hj]
    rfl
  | _ => cases hreport

/-- Reports are those of the dispatched tasks that are over, one for each. -/
structure Reported (all : List (Nat × Event)) (tasks : List Task) : Prop where
  once : (all.map Prod.fst).Nodup
  of_report : ∀ {i : Nat} {event : Event}, (i, event) ∈ all → ∃ t nanos failure,
    tasks[i]? = some t ∧ t.handler.isSome = true ∧ t.stage = .reported failure ∧
      event = State.outcomeEvent t.request nanos failure
  of_task : ∀ {i : Nat} {t : Task}, tasks[i]? = some t → t.hasReported = true →
    ∃ event, (i, event) ∈ all

/-- **Tasks and reports stay in step.** -/
theorem reported_of_run (h : Run (step setup) (start permits) past s) :
    Reported (reports past) s.tasks := by
  induction h with
  | start => exact ⟨List.nodup_nil, fun h => (by cases h), fun h => (by cases h)⟩
  | @snoc past s s' label shown hrun hstep ih =>
    have hsnoc : reports (past ++ [⟨s, label, s', shown⟩])
        = reports past ++ (report? ⟨s, label, s', shown⟩).toList := filterMap_concat _ _ _
    rw [hsnoc]
    constructor
    · cases hreport : report? ⟨s, label, s', shown⟩ with
      | none => simpa using ih.once
      | some own =>
        -- a task that reports has not reported before
        obtain ⟨j, own⟩ := own
        obtain ⟨t, _, _, hi, hopen, _⟩ := report_of_step hstep hreport
        rw [Option.toList_some, List.map_append, List.map_singleton, ← List.concat_eq_append,
          List.nodup_concat]
        refine ⟨fun hagain => ?_, ih.once⟩
        obtain ⟨⟨_, event⟩, hmem, rfl⟩ := List.mem_map.mp hagain
        obtain ⟨u, _, failure, hu, hhandler, hstage, _⟩ := ih.of_report hmem
        cases hi.symm.trans hu
        rw [Task.hasReported, hhandler, hstage] at hopen
        cases hopen
    · intro i event hmem
      rcases List.mem_append.mp hmem with hmem | hmem
      · obtain ⟨t, nanos, failure, hi, hrest⟩ := ih.of_report hmem
        refine ⟨t, nanos, failure, stays_of_step (writing_of_run hrun) hstep hi ?_, hrest⟩
        rw [hrest.2.1]
        rfl
      · obtain ⟨t, nanos, failure, _, _, hi, hhandler, hevent⟩ :=
          report_of_step hstep (Option.mem_toList.mp hmem)
        exact ⟨_, nanos, failure, hi, hhandler, rfl, hevent⟩
    · intro i t hi hdone
      rcases over_of_step hstep hi hdone with hi | ⟨event, hreport⟩
      · obtain ⟨event, hmem⟩ := ih.of_task hi hdone
        exact ⟨event, List.mem_append_left _ hmem⟩
      · exact ⟨event, List.mem_append_right _ (Option.mem_toList.mpr hreport)⟩

/-! ## What became of their answers -/

/-- What became of the answer of a task, given the sends: how it failed, if it did. -/
inductive Resolved (setup : Setup) (all : List Send) (i : Nat) (request : Request) :
    Option LinkError → Prop
  /-- It is out as a whole frame. -/
  | answered (frame : Bytes) : setup.outcome request = .ok frame → ⟨i, frame, frame, none⟩ ∈ all →
      Resolved setup all i request none
  /-- Writing failed, and the rest of the frame did not go out. -/
  | brokenOff (part rest : Bytes) (cause : LinkError) : setup.outcome request = .ok (part ++ rest) →
      rest ≠ [] → ⟨i, part ++ rest, part, some cause⟩ ∈ all →
      Resolved setup all i request (some cause)
  /-- There is no frame for it, nor for its substitute. -/
  | unframed (cause : LinkError) : setup.outcome request = .error cause →
      Resolved setup all i request (some cause)

/-- A send with which the writer is done is over. -/
theorem Sending.isOver {all : List Send} {written : Bytes} {x : Send} {t : Task}
    (h : Sending setup all written s) (hw : WritingFits s.tasks s.writing) (hx : x ∈ all)
    (hi : s.tasks[x.task]? = some t) (hstage : t.stage ≠ .writing) : x.IsOver := by
  cases hwriting : s.writing with
  | none =>
    have hcurrent := h.current
    rw [hwriting] at hcurrent
    cases hcurrent with
    | free hover => exact hover x hx
  | some current =>
    obtain ⟨i, left⟩ := current
    have hcurrent := h.current
    rw [hwriting] at hcurrent
    obtain ⟨earlier, part, rfl, hover, _⟩ := hcurrent.of_writing
    rcases List.mem_append.mp hx with hx | hx
    · exact hover x hx
    · -- the last send is that of the task at which the writer is
      cases List.mem_singleton.mp hx
      obtain ⟨u, hu, hwrites⟩ := hw.1 i left hwriting
      cases hi.symm.trans hu
      exact absurd hwrites hstage

theorem Sending.resolved {all : List Send} {written : Bytes} {i : Nat} {t : Task}
    {failure : Option LinkError} (h : Sending setup all written s)
    (hw : WritingFits s.tasks s.writing) (hi : s.tasks[i]? = some t)
    (hstage : t.stage = .reported failure) : Resolved setup all i t.request failure := by
  have hresult : t.stage.result? = some failure := by rw [hstage]; rfl
  rcases h.matched.of_task hi hresult with ⟨x, hx, rfl, rfl⟩ | ⟨cause, rfl, hframe⟩
  · obtain ⟨u, hu, hframe, _⟩ := h.matched.of_send x hx
    cases hi.symm.trans hu
    have hover := h.isOver hw hx hi (by simp [hstage])
    obtain ⟨i, frame, sent, failure⟩ := x
    cases hover with
    | whole => exact .answered frame hframe hx
    | broken _ _ rest cause hne => exact .brokenOff sent rest cause hframe hne hx
  · exact .unframed cause hframe

/-- All tasks are over, given what was sent and reported. -/
structure Drained (setup : Setup) (past : List (Moment State Label Effect)) (tasks : List Task) :
    Prop where
  /-- The answer of each is out, broke off, or has no frame. -/
  resolved : ∀ {i : Nat} {t : Task}, tasks[i]? = some t →
    ∃ failure, t.stage = .reported failure ∧ Resolved setup (sends past) i t.request failure
  /-- Each dispatched one has reported that. -/
  reported : ∀ {i : Nat} {t : Task}, tasks[i]? = some t → t.handler.isSome = true →
    ∃ nanos failure, t.stage = .reported failure ∧
      (i, State.outcomeEvent t.request nanos failure) ∈ reports past
  /-- None has reported twice. -/
  once : ((reports past).map Prod.fst).Nodup

/-- All tasks are over before a connection ends its output. -/
theorem drained_of_run (h : Run (step setup) (start permits) past s)
    (hlate : s.phase.isLate = true) : Drained setup past s.tasks := by
  have hstage : ∀ {i : Nat} {t : Task}, s.tasks[i]? = some t →
      ∃ failure, t.stage = .reported failure := by
    intro i t hi
    have hover := (phased_of_run h).drained hlate hi
    cases hstage : t.stage with
    | reported failure => exact ⟨failure, rfl⟩
    | _ =>
      rw [hstage] at hover
      cases hover
  have hreported := reported_of_run h
  refine ⟨fun {i t} hi => ?_, fun {i t} hi hhandler => ?_, hreported.once⟩
  · obtain ⟨failure, hover⟩ := hstage hi
    exact ⟨failure, hover, (sending_of_run h).resolved (writing_of_run h) hi hover⟩
  · obtain ⟨failure, hover⟩ := hstage hi
    obtain ⟨event, hmem⟩ := hreported.of_task hi (by rw [Task.hasReported, hhandler, hover]; rfl)
    obtain ⟨u, nanos, failure', hu, _, hsame, rfl⟩ := hreported.of_report hmem
    cases hi.symm.trans hu
    exact ⟨nanos, failure', hsame, hmem⟩

end RemoteCall.Connection
