import RemoteCall.Proofs.Frame.Stream
import RemoteCall.Proofs.Server.Change

/-!
# The books of a connection

Somebody who watches a connection notes down which requests it reads, which handlers run, which
frames are begun and which bytes go out (`Record`).  `Books` says how these notes and the state
agree.  For every request the stage tells how often its handler ran and which frames were begun for
it, and this is never more than one each (`Stage.Fits`); the bytes that went out, together with those
that the writer still has, are the frames in the order in which they were begun.

All of this holds as long as writing does not fail; then a frame may stay incomplete.
-/

namespace RemoteCall.Connection

/-! ## What is noted down -/

/-- The notes of somebody who watches a connection.  Tasks are known by their numbers. -/
structure Record where
  requests : List Request
  handled : List Nat
  frames : List (Nat × Bytes)
  written : Bytes

namespace Record

/-- Notes down one step. -/
def extend (r : Record) (request : Option Request) (task : Option Nat)
    (frame : Option (Nat × Bytes)) (bytes : Bytes) : Record :=
  ⟨r.requests ++ request.toList, r.handled ++ task.toList, r.frames ++ frame.toList,
    r.written ++ bytes⟩

/-- The frames that were begun for a task. -/
def framesOf (r : Record) (i : Nat) : List Bytes :=
  (r.frames.filter fun frame => frame.1 = i).map Prod.snd

theorem framesOf_extend (r : Record) (request : Option Request) (task : Option Nat)
    (frame : Option (Nat × Bytes)) (bytes : Bytes) (i : Nat) :
    (r.extend request task frame bytes).framesOf i
      = r.framesOf i ++ (frame.toList.filter fun frame => frame.1 = i).map Prod.snd := by
  rw [framesOf, framesOf, extend, List.filter_append, List.map_append]

theorem extend_nothing (r : Record) : r.extend none none none [] = r := by
  simp [extend]

end Record

/-- The notes of a run. -/
def record (setup : Setup) (past : List (Moment State Label Effect)) : Record where
  requests := past.filterMap fun m => m.before.incoming setup m.label
  handled := past.filterMap fun m => m.label.handled
  frames := past.filterMap fun m => begun m.after m.label
  written := past.flatMap fun m => output m.shown

theorem record_snoc (setup : Setup) (past : List (Moment State Label Effect)) (s s' : State)
    (label : Label) (shown : List Effect) :
    record setup (past ++ [⟨s, label, s', shown⟩])
      = (record setup past).extend (s.incoming setup label) label.handled (begun s' label)
        (output shown) := by
  simp only [record, Record.extend, filterMap_concat, List.flatMap_append, List.flatMap_cons,
    List.flatMap_nil, List.append_nil]

/-- The bytes of the current frame that did not go out yet. -/
def State.unwritten (s : State) : Bytes :=
  match s.writing with
  | some (_, left) => left
  | none => []

/-! ## How notes and state agree -/

/-- How often the handler of a request runs. -/
def Setup.runs (setup : Setup) (request : Request) : Nat :=
  (setup.handler request).toList.length

/-- The frames that are written for a request. -/
def Setup.frames (setup : Setup) (request : Request) : List Bytes :=
  (setup.outcome request).toOption.toList

/-- What the stage of a request says about the runs of its handler and about its frames. -/
inductive Stage.Fits (setup : Setup) (request : Request) : Stage → Nat → List Bytes → Prop
  | waiting (method : Method) : setup.handler request = some method → Fits setup request .waiting 0 []
  | dispatched (method : Method) : setup.handler request = some method →
      Fits setup request .dispatched 0 []
  | answered : Fits setup request (.answered (setup.answer request)) (setup.runs request) []
  | writing (frame : Bytes) : setup.outcome request = .ok frame →
      Fits setup request .writing (setup.runs request) [frame]
  | settled : Fits setup request (.settled (setup.failure request)) (setup.runs request)
      (setup.frames request)
  | reported : Fits setup request (.reported (setup.failure request)) (setup.runs request)
      (setup.frames request)

section Outcome

variable {setup : Setup} {request : Request}

theorem runs_eq_one {method : Method} (h : setup.handler request = some method) :
    setup.runs request = 1 := by
  rw [Setup.runs, h]
  rfl

theorem runs_eq_zero (h : setup.handler request = none) : setup.runs request = 0 := by
  rw [Setup.runs, h]
  rfl

theorem frames_of_ok {frame : Bytes} (h : setup.outcome request = .ok frame) :
    setup.frames request = [frame] := by
  rw [Setup.frames, h]
  rfl

theorem frames_of_error {cause : LinkError} (h : setup.outcome request = .error cause) :
    setup.frames request = [] := by
  rw [Setup.frames, h]
  rfl

theorem failure_of_ok {frame : Bytes} (h : setup.outcome request = .ok frame) :
    setup.failure request = none := by
  rw [Setup.failure, h]

theorem failure_of_error {cause : LinkError} (h : setup.outcome request = .error cause) :
    setup.failure request = some cause := by
  rw [Setup.failure, h]

end Outcome

/-! ## What each stage tells -/

namespace Stage.Fits

variable {setup : Setup} {request : Request} {stage : Stage} {n : Nat} {frames : List Bytes}

theorem of_waiting (h : Stage.waiting.Fits setup request n frames) :
    n = 0 ∧ frames = [] ∧ ∃ method, setup.handler request = some method := by
  cases h with
  | waiting method hmethod => exact ⟨rfl, rfl, method, hmethod⟩

theorem of_dispatched (h : Stage.dispatched.Fits setup request n frames) :
    n = 0 ∧ frames = [] ∧ ∃ method, setup.handler request = some method := by
  cases h with
  | dispatched method hmethod => exact ⟨rfl, rfl, method, hmethod⟩

theorem of_answered {reply : Reply} (h : (Stage.answered reply).Fits setup request n frames) :
    reply = setup.answer request ∧ n = setup.runs request ∧ frames = [] := by
  cases h with
  | answered => exact ⟨rfl, rfl, rfl⟩

theorem of_writing (h : Stage.writing.Fits setup request n frames) :
    n = setup.runs request ∧ ∃ frame, setup.outcome request = .ok frame ∧ frames = [frame] := by
  cases h with
  | writing frame hframe => exact ⟨rfl, frame, hframe, rfl⟩

theorem of_settled {failure : Option LinkError}
    (h : (Stage.settled failure).Fits setup request n frames) :
    failure = setup.failure request ∧ n = setup.runs request ∧ frames = setup.frames request := by
  cases h with
  | settled => exact ⟨rfl, rfl, rfl⟩

/-- A task that is over tells how its answer fared, and nothing is missing any more. -/
theorem of_over (h : stage.Fits setup request n frames) (hover : stage.isOver = true) :
    stage = .reported (setup.failure request) ∧ n = setup.runs request ∧
      frames = setup.frames request := by
  cases h with
  | reported => exact ⟨rfl, rfl, rfl⟩
  | _ => cases hover

/-- Before that, the handler may still have to run. -/
theorem le_runs (h : stage.Fits setup request n frames) : n ≤ setup.runs request := by
  cases h with
  | waiting => exact Nat.zero_le _
  | dispatched => exact Nat.zero_le _
  | answered => exact Nat.le_refl _
  | writing => exact Nat.le_refl _
  | settled => exact Nat.le_refl _
  | reported => exact Nat.le_refl _

/-- And the frame may still have to be begun. -/
theorem frames_cases (h : stage.Fits setup request n frames) :
    frames = [] ∨ frames = setup.frames request := by
  cases h with
  | waiting => exact Or.inl rfl
  | dispatched => exact Or.inl rfl
  | answered => exact Or.inl rfl
  | writing frame hframe => exact Or.inr (frames_of_ok hframe).symm
  | settled => exact Or.inr rfl
  | reported => exact Or.inr rfl

/-- With the report a task does not change what was noted for it. -/
theorem report {failure : Option LinkError}
    (h : (Stage.settled failure).Fits setup request n frames) :
    (Stage.reported failure).Fits setup request n frames := by
  obtain ⟨rfl, rfl, rfl⟩ := h.of_settled
  exact .reported

end Stage.Fits

/-- The tasks are the requests that were noted, each with its handler, and their stages fit. -/
structure Kept (setup : Setup) (r : Record) (tasks : List Task) : Prop where
  requests : tasks.map Task.request = r.requests
  handler : ∀ {i : Nat} {t : Task}, tasks[i]? = some t → t.handler = setup.handler t.request
  fits : ∀ {i : Nat} {t : Task}, tasks[i]? = some t →
    t.stage.Fits setup t.request (r.handled.count i) (r.framesOf i)
  unread : ∀ {i : Nat}, tasks.length ≤ i → r.handled.count i = 0 ∧ r.framesOf i = []

/-- Only the writer's own task is at the stage of writing. -/
def WritingFits (tasks : List Task) (writing : Option (Nat × Bytes)) : Prop :=
  (∀ i left, writing = some (i, left) → ∃ t, tasks[i]? = some t ∧ t.stage = .writing) ∧
    ∀ i t, tasks[i]? = some t → t.stage = .writing → ∃ left, writing = some (i, left)

/-- The books of a connection. -/
structure Books (setup : Setup) (r : Record) (s : State) : Prop where
  kept : Kept setup r s.tasks
  writing : WritingFits s.tasks s.writing
  output : r.written ++ s.unwritten = r.frames.flatMap Prod.snd

variable {setup : Setup} {s s' : State} {r r' : Record} {tasks : List Task}

theorem books_start (setup : Setup) (permits : Nat) :
    Books setup (record setup []) (start permits) where
  kept := ⟨rfl, fun h => (by cases h), fun h => (by cases h), fun _ => ⟨rfl, rfl⟩⟩
  writing := ⟨fun _ _ h => (by cases h), fun _ _ h => (by cases h)⟩
  output := rfl

/-! ## One task moves on -/

/-- A task keeps its request. -/
theorem map_request_modify (tasks : List Task) (i : Nat) (stage : Stage) :
    (tasks.modify i fun t => { t with stage := stage }).map Task.request
      = tasks.map Task.request := by
  apply List.ext_getElem?
  intro j
  rw [List.getElem?_map, List.getElem?_map, List.getElem?_modify]
  cases tasks[j]? with
  | none => rfl
  | some u =>
    by_cases hij : i = j
    · simp [hij]
    · simp [hij]

theorem Kept.setStage {i : Nat} {t : Task} {stage : Stage} (h : Kept setup r tasks)
    (hi : tasks[i]? = some t) (hrequests : r'.requests = r.requests)
    (hothers : ∀ j, j ≠ i →
      r'.handled.count j = r.handled.count j ∧ r'.framesOf j = r.framesOf j)
    (hfits : stage.Fits setup t.request (r'.handled.count i) (r'.framesOf i)) :
    Kept setup r' (tasks.modify i fun t => { t with stage := stage }) := by
  refine ⟨?_, ?_, ?_, ?_⟩
  · rw [hrequests, ← h.requests]
    exact map_request_modify tasks i stage
  · intro j u hj
    obtain ⟨v, hv, rfl⟩ := getElem?_modify_eq_some hj
    split
    · show v.handler = _
      exact h.handler hv
    · exact h.handler hv
  · intro j u hj
    obtain ⟨v, hv, rfl⟩ := getElem?_modify_eq_some hj
    by_cases hij : i = j
    · subst hij
      cases hi.symm.trans hv
      rw [if_pos rfl]
      exact hfits
    · obtain ⟨hcount, hframes⟩ := hothers j (Ne.symm hij)
      rw [if_neg hij, hcount, hframes]
      exact h.fits hv
  · intro j hj
    rw [List.length_modify] at hj
    have hne : j ≠ i := by
      have := (List.getElem?_eq_some_iff.mp hi).1
      omega
    obtain ⟨hcount, hframes⟩ := hothers j hne
    rw [hcount, hframes]
    exact h.unread hj

/-- A task moves on without anything being noted. -/
theorem Kept.advance {i : Nat} {t : Task} {stage : Stage} (h : Kept setup r tasks)
    (hi : tasks[i]? = some t)
    (hfits : ∀ n frames, t.stage.Fits setup t.request n frames →
      stage.Fits setup t.request n frames) :
    Kept setup r (tasks.modify i fun t => { t with stage := stage }) :=
  h.setStage hi rfl (fun _ _ => ⟨rfl, rfl⟩) (hfits _ _ (h.fits hi))

theorem request_task (setup : Setup) (request : Request) :
    (setup.task request).request = request := by
  rw [Setup.task]
  split <;> rfl

theorem Kept.take (h : Kept setup r tasks) (request : Request) :
    Kept setup (r.extend (some request) none none []) (tasks ++ [setup.task request]) := by
  have hextend : ∀ i, (r.extend (some request) none none []).handled.count i = r.handled.count i ∧
      (r.extend (some request) none none []).framesOf i = r.framesOf i := by
    intro i
    simp [Record.extend, Record.framesOf]
  have hrequest := request_task setup request
  have hnew := h.unread (Nat.le_refl tasks.length)
  refine ⟨?_, ?_, ?_, ?_⟩
  · rw [List.map_append, h.requests, List.map_singleton, hrequest]
    rfl
  · intro i t hi
    rcases getElem?_append_singleton hi with hi | ⟨rfl, rfl⟩
    · exact h.handler hi
    · rw [hrequest, Setup.task]
      split
      · next method hhandler => exact hhandler.symm
      · next hhandler => exact hhandler.symm
  · intro i t hi
    rw [(hextend i).1, (hextend i).2]
    -- a known target makes the request wait, and for any other the answer is there at once
    rcases getElem?_append_singleton hi with hi | ⟨rfl, rfl⟩
    · exact h.fits hi
    · rw [hrequest, hnew.1, hnew.2, Setup.task]
      split
      · next method hhandler => exact .waiting method hhandler
      · next hhandler =>
        exact runs_eq_zero hhandler ▸ Stage.Fits.answered
  · intro i hi
    rw [List.length_append, List.length_singleton] at hi
    rw [(hextend i).1, (hextend i).2]
    exact h.unread (by omega)

/-- The handler of a dispatched task runs. -/
theorem Kept.run {i : Nat} {request : Request} {method : Method} {reply : Reply}
    (h : Kept setup r tasks) (hi : tasks[i]? = some ⟨request, some method, .dispatched⟩)
    (hreply : setup.handler request = some method → reply = setup.answer request) :
    Kept setup (r.extend none (some i) none [])
      (tasks.modify i fun t => { t with stage := .answered reply }) := by
  obtain ⟨hzero, hnil, _, hhandler⟩ := (h.fits hi).of_dispatched
  refine h.setStage hi (List.append_nil _) ?_ ?_
  · intro j hj
    rw [Record.framesOf_extend]
    simp [Record.extend, List.count_append, Ne.symm hj]
  · -- one run is noted, and a task with a handler is noted one run
    have hcount : (r.extend none (some i) none []).handled.count i = setup.runs request := by
      simp [Record.extend, List.count_append, hzero, runs_eq_one hhandler]
    rw [Record.framesOf_extend, hnil, hcount, hreply (h.handler hi).symm]
    exact .answered

/-- The frame of an answer is begun. -/
theorem Kept.begin {i : Nat} {t : Task} {reply : Reply} {frame : Bytes} (h : Kept setup r tasks)
    (hi : tasks[i]? = some t) (hstage : t.stage = .answered reply)
    (hframe : reply.frameOrSubstitute setup.frameLimit t.request.seq = .ok frame) :
    Kept setup (r.extend none none (some (i, frame)) [])
      (tasks.modify i fun t => { t with stage := .writing }) := by
  have hfits := h.fits hi
  rw [hstage] at hfits
  obtain ⟨rfl, hruns, hnil⟩ := hfits.of_answered
  refine h.setStage hi (List.append_nil _) ?_ ?_
  · intro j hj
    rw [Record.framesOf_extend]
    simp [Record.extend, Ne.symm hj]
  · have hcount : (r.extend none none (some (i, frame)) []).handled.count i
        = setup.runs t.request := by simp [Record.extend, hruns]
    rw [Record.framesOf_extend, hnil, hcount]
    simp only [Option.toList_some, List.filter_cons, List.filter_nil, decide_true, if_true,
      List.map_cons, List.map_nil, List.nil_append]
    exact .writing frame hframe

/-- An answer that has no frame is settled with nothing written. -/
theorem Kept.giveUp {i : Nat} {t : Task} {reply : Reply} {cause : LinkError}
    (h : Kept setup r tasks) (hi : tasks[i]? = some t) (hstage : t.stage = .answered reply)
    (hframe : reply.frameOrSubstitute setup.frameLimit t.request.seq = .error cause) :
    Kept setup r (tasks.modify i fun t => { t with stage := .settled (some cause) }) := by
  refine h.advance hi ?_
  intro n frames hfits
  rw [hstage] at hfits
  obtain ⟨rfl, rfl, rfl⟩ := hfits.of_answered
  rw [← failure_of_error hframe, ← frames_of_error hframe]
  exact .settled

/-- A frame is written to its end. -/
theorem Kept.finish {i : Nat} {t : Task} (h : Kept setup r tasks) (hi : tasks[i]? = some t)
    (hstage : t.stage = .writing) :
    Kept setup r (tasks.modify i fun t => { t with stage := .settled none }) := by
  refine h.advance hi ?_
  intro n frames hfits
  rw [hstage] at hfits
  obtain ⟨rfl, frame, hframe, rfl⟩ := hfits.of_writing
  rw [← failure_of_ok hframe, ← frames_of_ok hframe]
  exact .settled

/-! ## The writer -/

/-- A task moves on that neither was nor is writing. -/
theorem WritingFits.setStage {i : Nat} {t : Task} {stage : Stage} {writing : Option (Nat × Bytes)}
    (h : WritingFits tasks writing) (hi : tasks[i]? = some t) (hold : t.stage ≠ .writing)
    (hnew : stage ≠ .writing) :
    WritingFits (tasks.modify i fun t => { t with stage := stage }) writing := by
  constructor
  · intro j left hj
    obtain ⟨u, hu, hstage⟩ := h.1 j left hj
    -- the task that is writing is not the one that moves on
    have hij : i ≠ j := by
      rintro rfl
      cases hi.symm.trans hu
      exact hold hstage
    exact ⟨u, (List.getElem?_modify_ne _ tasks hij).trans hu, hstage⟩
  · intro j u hj hstage
    obtain ⟨v, hv, rfl⟩ := getElem?_modify_eq_some hj
    split at hstage
    · exact absurd hstage hnew
    · exact h.2 j v hv hstage

theorem WritingFits.begin {i : Nat} {t : Task} {frame : Bytes} (h : WritingFits tasks none)
    (hi : tasks[i]? = some t) :
    WritingFits (tasks.modify i fun t => { t with stage := .writing }) (some (i, frame)) := by
  constructor
  · intro j left hj
    cases hj
    refine ⟨{ t with stage := .writing }, ?_, rfl⟩
    rw [List.getElem?_modify_eq, hi]
    rfl
  · intro j u hj hstage
    obtain ⟨v, hv, rfl⟩ := getElem?_modify_eq_some hj
    by_cases hij : i = j
    · exact ⟨frame, by rw [hij]⟩
    · rw [if_neg hij] at hstage
      obtain ⟨left, hleft⟩ := h.2 j v hv hstage
      cases hleft

theorem WritingFits.finish {i : Nat} {left : Bytes} {stage : Stage}
    (h : WritingFits tasks (some (i, left))) (hnew : stage ≠ .writing) :
    WritingFits (tasks.modify i fun t => { t with stage := stage }) none := by
  refine ⟨fun j left' hj => (by cases hj), ?_⟩
  intro j u hj hstage
  obtain ⟨v, hv, rfl⟩ := getElem?_modify_eq_some hj
  by_cases hij : i = j
  · rw [if_pos hij] at hstage
    exact absurd hstage hnew
  · rw [if_neg hij] at hstage
    obtain ⟨left', hleft⟩ := h.2 j v hv hstage
    cases hleft
    exact absurd rfl hij

theorem WritingFits.continue {i : Nat} {left left' : Bytes}
    (h : WritingFits tasks (some (i, left))) : WritingFits tasks (some (i, left')) := by
  constructor
  · intro j l hj
    cases hj
    exact h.1 i left rfl
  · intro j u hj hstage
    obtain ⟨l, hl⟩ := h.2 j u hj hstage
    cases hl
    exact ⟨left', rfl⟩

theorem WritingFits.take {writing : Option (Nat × Bytes)} (h : WritingFits tasks writing)
    (request : Request) : WritingFits (tasks ++ [setup.task request]) writing := by
  constructor
  · intro j left hj
    obtain ⟨u, hu, hstage⟩ := h.1 j left hj
    exact ⟨u, by rw [List.getElem?_append_left (List.getElem?_eq_some_iff.mp hu).1, hu], hstage⟩
  · intro j u hj hstage
    rcases getElem?_append_singleton hj with hj | ⟨rfl, rfl⟩
    · exact h.2 j u hj hstage
    · unfold Setup.task at hstage
      split at hstage
      · cases hstage
      · cases hstage

/-- The writer stays with its task, whatever happens to others. -/
theorem writing_step {request : Option Request} {task : Option Nat} {frame : Option (Nat × Bytes)}
    {bytes : Bytes} (hc : Change setup s request task frame bytes s')
    (h : WritingFits s.tasks s.writing) : WritingFits s'.tasks s'.writing := by
  cases hc with
  | quiet _ htasks _ hwriting => exact htasks ▸ hwriting ▸ h
  | took request _ _ htasks _ hwriting =>
    rw [htasks, hwriting]
    exact h.take request
  | acquired i request method _ hi _ => exact h.setStage hi (by simp) (by simp)
  | ran i request method reply hi _ => exact h.setStage hi (by simp) (by simp)
  | began i t reply frame hnone hi _ _ => exact (hnone ▸ h).begin hi
  | gaveUp i t reply cause _ hi hstage _ => exact h.setStage hi (by simp [hstage]) (by simp)
  | wrote i n left hwriting _ _ => exact (hwriting ▸ h).continue
  | wroteLast i _ hwriting => exact (hwriting ▸ h).finish (by simp)
  | reported i request method failure hi => exact h.setStage hi (by simp) (by simp)
  | resumed i request failure _ hi => exact h.setStage hi (by simp) (by simp)

/-- **The writer always has its own task**, also when writing fails. -/
theorem writing_of_run {permits : Nat} {past : List (Moment State Label Effect)}
    (h : Run (step setup) (start permits) past s) : WritingFits s.tasks s.writing := by
  induction h with
  | start => exact ⟨fun _ _ h => (by cases h), fun _ _ h => (by cases h)⟩
  | @snoc past s s' label shown hrun hstep ih =>
    cases hbreaks : label.breaks with
    | false => exact writing_step (change_of_step hbreaks hstep) ih
    | true =>
      obtain ⟨i, left, cause, rfl, hwriting, rfl, rfl⟩ := failed_of_step hbreaks hstep
      exact (hwriting ▸ ih).finish (by simp)

/-! ## Steps and runs -/

/-- To note down bytes does not touch what is kept about tasks. -/
theorem Kept.write (h : Kept setup r tasks) (bytes : Bytes) :
    Kept setup (r.extend none none none bytes) tasks := by
  rw [Record.extend, Option.toList_none, Option.toList_none, Option.toList_none, List.append_nil,
    List.append_nil, List.append_nil]
  exact ⟨h.requests, h.handler, h.fits, h.unread⟩

theorem output_of_eq {request : Option Request} {task : Option Nat} (hw : s'.writing = s.writing)
    (h : r.written ++ s.unwritten = r.frames.flatMap Prod.snd) :
    (r.extend request task none []).written ++ s'.unwritten
      = (r.extend request task none []).frames.flatMap Prod.snd := by
  simp only [Record.extend, Option.toList_none, List.append_nil]
  rw [← h, State.unwritten, State.unwritten, hw]

/-- **The books stay right.** -/
theorem books_step {request : Option Request} {task : Option Nat} {frame : Option (Nat × Bytes)}
    {bytes : Bytes} (hc : Change setup s request task frame bytes s') (h : Books setup r s) :
    Books setup (r.extend request task frame bytes) s' := by
  have hwrites := writing_step hc h.writing
  cases hc with
  | quiet _ htasks _ hwriting =>
    rw [Record.extend_nothing]
    refine ⟨htasks ▸ h.kept, hwrites, ?_⟩
    have hout := @output_of_eq s s' r none none hwriting h.output
    rwa [Record.extend_nothing] at hout
  | took request _ _ htasks _ hwriting =>
    exact ⟨htasks ▸ h.kept.take request, hwrites, output_of_eq hwriting h.output⟩
  | acquired i request method _ hi _ =>
    rw [Record.extend_nothing]
    refine ⟨h.kept.advance hi ?_, hwrites, h.output⟩
    rintro n frames ⟨_, hhandler⟩
    exact .dispatched _ hhandler
  | ran i request method reply hi hreply =>
    exact ⟨h.kept.run hi hreply, hwrites, output_of_eq rfl h.output⟩
  | began i t reply frame hnone hi hstage hframe =>
    refine ⟨h.kept.begin hi hstage hframe, hwrites, ?_⟩
    have hout := h.output
    rw [State.unwritten, hnone, List.append_nil] at hout
    simp [Record.extend, State.unwritten, hout]
  | gaveUp i t reply cause hnone hi hstage hframe =>
    rw [Record.extend_nothing]
    exact ⟨h.kept.giveUp hi hstage hframe, hwrites, h.output⟩
  | wrote i n left hwriting _ _ =>
    refine ⟨h.kept.write _, hwrites, ?_⟩
    have hout := h.output
    rw [State.unwritten, hwriting] at hout
    simp only [Record.extend, State.unwritten, Option.toList_none, List.append_nil]
    rw [List.append_assoc, List.take_append_drop]
    exact hout
  | wroteLast i _ hwriting =>
    obtain ⟨t, hi, hstage⟩ := h.writing.1 i bytes hwriting
    refine ⟨(h.kept.finish hi hstage).write _, hwrites, ?_⟩
    have hout := h.output
    rw [State.unwritten, hwriting] at hout
    simpa [Record.extend, State.unwritten] using hout
  | reported i request method failure hi =>
    rw [Record.extend_nothing]
    exact ⟨h.kept.advance hi fun _ _ => Stage.Fits.report, hwrites, h.output⟩
  | resumed i request failure _ hi =>
    rw [Record.extend_nothing]
    exact ⟨h.kept.advance hi fun _ _ => Stage.Fits.report, hwrites, h.output⟩

/-- **The books are right after every run** in which writing does not fail. -/
theorem books_of_run {permits : Nat} {past : List (Moment State Label Effect)}
    (h : Run (step setup) (start permits) past s) (hl : ∀ m ∈ past, m.label.breaks = false) :
    Books setup (record setup past) s := by
  induction h with
  | start => exact books_start setup permits
  | @snoc past s s' label shown hrun hstep ih =>
    rw [record_snoc]
    have hlast : label.breaks = false :=
      hl ⟨s, label, s', shown⟩ (List.mem_append_right _ (List.mem_singleton_self _))
    exact books_step (change_of_step hlast hstep) (ih fun m hm => hl m (List.mem_append_left _ hm))

end RemoteCall.Connection
