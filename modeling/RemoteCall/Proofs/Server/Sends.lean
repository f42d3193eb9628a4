import Mathlib.Data.List.ModifyLast
import Mathlib.Data.List.Nodup
import RemoteCall.Proofs.Server.Phases

/-!
# What a connection sends

A task sends one frame.  While it does, nobody else writes, and it ends in one of two ways: all of
the frame is out, or writing fails and the rest of it never goes out.  `sends` are the sends of a
run in the order in which they began, each with the bytes of it that went out and with the failure
that broke it off.

`Sending` says how they and the state agree, whether or not writing fails.  What was written are the
sends one after the other; only the last of them can be under way; no task sends twice; and what
became of an answer is what became of its send, or there was no frame for it.
-/

namespace RemoteCall.Connection

/-! ## The sends of a run -/

/-- The sending of a frame. -/
structure Send where
  task : Nat
  frame : Bytes
  /-- The bytes of it that went out. -/
  sent : Bytes
  /-- Why the rest did not go out. -/
  failure : Option LinkError
  deriving DecidableEq, Repr

/-- Nothing more of this frame goes out. -/
inductive Send.IsOver : Send → Prop
  | whole (i : Nat) (frame : Bytes) : IsOver ⟨i, frame, frame, none⟩
  | broken (i : Nat) (part rest : Bytes) (cause : LinkError) : rest ≠ [] →
      IsOver ⟨i, part ++ rest, part, some cause⟩

/-- Adds a frame that is begun, and bytes of the frame that was begun last. -/
def extendSends (sends : List Send) (frame : Option (Nat × Bytes)) (bytes : Bytes) : List Send :=
  match frame with
  | some (i, frame) => sends ++ [⟨i, frame, [], none⟩]
  | none => sends.modifyLast fun x => { x with sent := x.sent ++ bytes }

/-- What the sends are after one more step. -/
def nextSends (sends : List Send) (m : Moment State Label Effect) : List Send :=
  match m.label with
  | .failWrite cause => sends.modifyLast fun x => { x with failure := some cause }
  | label => extendSends sends (begun m.after label) (output m.shown)

/-- The sends of a run, in the order in which they began. -/
def sends (past : List (Moment State Label Effect)) : List Send :=
  past.foldl nextSends []

theorem sends_snoc (past : List (Moment State Label Effect)) (m : Moment State Label Effect) :
    sends (past ++ [m]) = nextSends (sends past) m := by
  rw [sends, List.foldl_append]
  rfl

theorem nextSends_of_not_breaks (sends : List Send) {m : Moment State Label Effect}
    (h : m.label.breaks = false) :
    nextSends sends m = extendSends sends (begun m.after m.label) (output m.shown) := by
  unfold nextSends
  split
  · next cause hlabel =>
    rw [hlabel] at h
    cases h
  · rfl

theorem extendSends_nothing (sends : List Send) : extendSends sends none [] = sends := by
  rcases List.eq_nil_or_concat sends with rfl | ⟨front, x, rfl⟩
  · rfl
  · rw [List.concat_eq_append, extendSends, List.modifyLast_concat, List.append_nil]

theorem extendSends_concat (front : List Send) (x : Send) (bytes : Bytes) :
    extendSends (front ++ [x]) none bytes = front ++ [{ x with sent := x.sent ++ bytes }] :=
  List.modifyLast_concat _ _ _

/-! ## How sends and state agree -/

/-- What became of an answer, once that is known. -/
def Stage.result? : Stage → Option (Option LinkError)
  | settled failure => some failure
  | reported failure => some failure
  | _ => none

/-- Every task has the handler that its request asks for, and its answer is the answer to it. -/
def Answering (setup : Setup) (tasks : List Task) : Prop :=
  ∀ (i : Nat) (t : Task), tasks[i]? = some t → t.handler = setup.handler t.request ∧
    ∀ reply, t.stage = .answered reply → reply = setup.answer t.request

/-- All sends are over but for the one that the writer is at. -/
inductive Current : List Send → Option (Nat × Bytes) → Prop
  | free {sends : List Send} : (∀ x ∈ sends, x.IsOver) → Current sends none
  | busy {earlier : List Send} (i : Nat) (part left : Bytes) : (∀ x ∈ earlier, x.IsOver) →
      left ≠ [] → Current (earlier ++ [⟨i, part ++ left, part, none⟩]) (some (i, left))

/-- Sends are those of tasks, and tell what became of their answers. -/
structure Matched (setup : Setup) (sends : List Send) (tasks : List Task) : Prop where
  of_send : ∀ x ∈ sends, ∃ t, tasks[x.task]? = some t ∧ setup.outcome t.request = .ok x.frame ∧
    (t.stage = .writing ∨ t.stage.result? = some x.failure)
  of_task : ∀ {i : Nat} {t : Task} {failure : Option LinkError}, tasks[i]? = some t →
    t.stage.result? = some failure → (∃ x ∈ sends, x.task = i ∧ x.failure = failure) ∨
      ∃ cause, failure = some cause ∧ setup.outcome t.request = .error cause

/-- How the sends, the bytes that were written and the state agree. -/
structure Sending (setup : Setup) (sends : List Send) (written : Bytes) (s : State) : Prop where
  answering : Answering setup s.tasks
  current : Current sends s.writing
  once : (sends.map Send.task).Nodup
  matched : Matched setup sends s.tasks
  written : written = sends.flatMap Send.sent

theorem sending_start (setup : Setup) (permits : Nat) : Sending setup [] [] (start permits) where
  answering _ _ h := by cases h
  current := .free fun _ h => by cases h
  once := List.nodup_nil
  matched := ⟨fun _ h => (by cases h), fun h => (by cases h)⟩
  written := rfl

variable {setup : Setup} {s s' : State} {all all' : List Send} {written bytes : Bytes}
  {tasks : List Task} {i : Nat} {t : Task} {stage : Stage}

/-! ## One task moves on -/

theorem Answering.setStage (h : Answering setup tasks) (hi : tasks[i]? = some t)
    (hanswer : ∀ reply, stage = .answered reply → reply = setup.answer t.request) :
    Answering setup (tasks.modify i fun t => { t with stage := stage }) := by
  intro j u hj
  obtain ⟨v, hv, rfl⟩ := getElem?_modify_eq_some hj
  by_cases hij : i = j
  · subst hij
    cases hi.symm.trans hv
    rw [if_pos rfl]
    exact ⟨(h i t hi).1, hanswer⟩
  · rw [if_neg hij]
    exact h j v hv

theorem Answering.take (h : Answering setup tasks) (request : Request) :
    Answering setup (tasks ++ [setup.task request]) := by
  intro j u hj
  rcases getElem?_append_singleton hj with hj | ⟨rfl, rfl⟩
  · exact h j u hj
  · rw [request_task, Setup.task]
    split
    · next method hhandler => exact ⟨hhandler.symm, fun _ hstage => by cases hstage⟩
    · next hhandler => exact ⟨hhandler.symm, fun _ hstage => by cases hstage; rfl⟩

/-- A task moves on; the sends of others stay. -/
theorem Matched.setStage (h : Matched setup all tasks) (hi : tasks[i]? = some t)
    (hothers : ∀ x, x.task ≠ i → (x ∈ all' ↔ x ∈ all))
    (hown : ∀ x ∈ all', x.task = i → setup.outcome t.request = .ok x.frame ∧
      (stage = .writing ∨ stage.result? = some x.failure))
    (htold : ∀ failure, stage.result? = some failure →
      (∃ x ∈ all', x.task = i ∧ x.failure = failure) ∨
        ∃ cause, failure = some cause ∧ setup.outcome t.request = .error cause) :
    Matched setup all' (tasks.modify i fun t => { t with stage := stage }) := by
  constructor
  · intro x hx
    by_cases hxi : x.task = i
    · obtain ⟨hframe, hstage⟩ := hown x hx hxi
      refine ⟨{ t with stage := stage }, ?_, hframe, hstage⟩
      rw [hxi, List.getElem?_modify_eq, hi]
      rfl
    · obtain ⟨u, hu, hrest⟩ := h.of_send x ((hothers x hxi).mp hx)
      exact ⟨u, (List.getElem?_modify_ne _ tasks (Ne.symm hxi)).trans hu, hrest⟩
  · intro j u failure hj hresult
    obtain ⟨v, hv, rfl⟩ := getElem?_modify_eq_some hj
    by_cases hij : i = j
    · subst hij
      cases hi.symm.trans hv
      rw [if_pos rfl] at hresult ⊢
      exact htold failure hresult
    · rw [if_neg hij] at hresult ⊢
      refine (h.of_task hv hresult).imp_left ?_
      rintro ⟨x, hx, hxj, hfailure⟩
      exact ⟨x, (hothers x (hxj ▸ Ne.symm hij)).mpr hx, hxj, hfailure⟩

theorem Matched.take (h : Matched setup all tasks) (request : Request) :
    Matched setup all (tasks ++ [setup.task request]) := by
  constructor
  · intro x hx
    obtain ⟨t, ht, hrest⟩ := h.of_send x hx
    refine ⟨t, ?_, hrest⟩
    rw [List.getElem?_append_left (List.getElem?_eq_some_iff.mp ht).1, ht]
  · intro j u failure hj hresult
    rcases getElem?_append_singleton hj with hj | ⟨rfl, rfl⟩
    · exact h.of_task hj hresult
    · rw [Setup.task] at hresult
      split at hresult
      · cases hresult
      · cases hresult

/-- A task moves on without anything being sent, and what became of its answer stays as it is. -/
theorem Sending.proceed (stage : Stage) (h : Sending setup all written s) (hi : s.tasks[i]? = some t)
    (hwas : t.stage ≠ .writing) (hresult : stage.result? = t.stage.result?)
    (hanswer : ∀ reply, stage = .answered reply → reply = setup.answer t.request)
    (htasks : s'.tasks = (s.setStage i stage).tasks) (hwriting : s'.writing = s.writing) :
    Sending setup all written s' := by
  refine ⟨htasks ▸ h.answering.setStage hi hanswer, hwriting ▸ h.current, h.once, ?_, h.written⟩
  rw [htasks]
  refine h.matched.setStage hi (fun _ _ => Iff.rfl) ?_ ?_
  · intro x hx hxi
    obtain ⟨u, hu, hframe, hstage⟩ := h.matched.of_send x hx
    rw [hxi] at hu
    cases hi.symm.trans hu
    exact ⟨hframe, Or.inr (hresult.trans (hstage.resolve_left hwas))⟩
  · intro failure hfailure
    exact h.matched.of_task hi (hresult.symm.trans hfailure)

/-- A task whose answer is still to be sent has sent nothing. -/
theorem Matched.task_ne (h : Matched setup all tasks) (hi : tasks[i]? = some t)
    (hstage : t.stage ≠ .writing) (hresult : t.stage.result? = none) :
    ∀ x ∈ all, x.task ≠ i := by
  rintro x hx rfl
  obtain ⟨u, hu, _, hwas⟩ := h.of_send x hx
  cases hi.symm.trans hu
  rcases hwas with hwas | hwas
  · exact hstage hwas
  · rw [hresult] at hwas
    cases hwas

theorem Sending.giveUp {reply : Reply} {cause : LinkError} (h : Sending setup all written s)
    (hi : s.tasks[i]? = some t) (hstage : t.stage = .answered reply)
    (hframe : reply.frameOrSubstitute setup.frameLimit t.request.seq = .error cause) :
    Sending setup all written (s.setStage i (.settled (some cause))) := by
  have hreply := (h.answering i t hi).2 reply hstage
  have hnone := h.matched.task_ne hi (by simp [hstage]) (by rw [hstage]; rfl)
  refine ⟨h.answering.setStage hi (by simp), h.current, h.once, ?_, h.written⟩
  refine h.matched.setStage hi (fun _ _ => Iff.rfl) ?_ ?_
  · intro x hx hxi
    exact absurd hxi (hnone x hx)
  · rintro failure hfailure
    cases hfailure
    exact Or.inr ⟨cause, rfl, by rw [Setup.outcome, ← hreply, hframe]⟩

/-! ## The writer -/

/-- The frame of an answer is begun. -/
theorem Sending.begin {reply : Reply} {frame : Bytes} (h : Sending setup all written s)
    (hnone : s.writing = none) (hi : s.tasks[i]? = some t) (hstage : t.stage = .answered reply)
    (hframe : reply.frameOrSubstitute setup.frameLimit t.request.seq = .ok frame)
    (hne : frame ≠ []) :
    Sending setup (all ++ [⟨i, frame, [], none⟩]) written
      { s.setStage i .writing with writing := some (i, frame) } := by
  have hreply := (h.answering i t hi).2 reply hstage
  have hfresh := h.matched.task_ne hi (by simp [hstage]) (by rw [hstage]; rfl)
  have hover : ∀ x ∈ all, x.IsOver := by
    have hcurrent := h.current
    rw [hnone] at hcurrent
    cases hcurrent with
    | free hover => exact hover
  refine ⟨h.answering.setStage hi (by simp), .busy i [] frame hover hne, ?_, ?_, ?_⟩
  · rw [List.map_append, List.map_singleton, ← List.concat_eq_append, List.nodup_concat]
    refine ⟨fun hmem => ?_, h.once⟩
    obtain ⟨x, hx, hxi⟩ := List.mem_map.mp hmem
    exact hfresh x hx hxi
  · refine h.matched.setStage hi ?_ ?_ (fun _ hresult => by cases hresult)
    · intro x hxi
      rw [List.mem_append, List.mem_singleton]
      exact or_iff_left fun heq => hxi (heq ▸ rfl)
    · intro x hx hxi
      rcases List.mem_append.mp hx with hx | hx
      · exact absurd hxi (hfresh x hx)
      · cases List.mem_singleton.mp hx
        exact ⟨by rw [Setup.outcome, ← hreply, hframe], Or.inl rfl⟩
  · rw [List.flatMap_append, List.flatMap_singleton, List.append_nil]
    exact h.written

/-- What the writer is at is the last send. -/
theorem Current.of_writing {left : Bytes} (h : Current all (some (i, left))) :
    ∃ earlier part, all = earlier ++ [⟨i, part ++ left, part, none⟩] ∧
      (∀ x ∈ earlier, x.IsOver) ∧ left ≠ [] := by
  cases h with
  | busy _ part _ hover hne => exact ⟨_, part, rfl, hover, hne⟩

/-- Some bytes go out, but not the last one. -/
theorem Sending.continue {left : Bytes} {n : Nat} (h : Sending setup all written s)
    (hwriting : s.writing = some (i, left)) (hlt : n < left.length) :
    Sending setup (extendSends all none (left.take n)) (written ++ left.take n)
      { s with writing := some (i, left.drop n) } := by
  have hcurrent := h.current
  rw [hwriting] at hcurrent
  obtain ⟨earlier, part, rfl, hover, _⟩ := hcurrent.of_writing
  have hframe : part ++ left = part ++ left.take n ++ left.drop n := by
    rw [List.append_assoc, List.take_append_drop]
  rw [extendSends_concat]
  refine ⟨h.answering, ?_, ?_, ⟨?_, ?_⟩, ?_⟩
  · simp only [hframe]
    exact .busy i (part ++ left.take n) (left.drop n) hover (by simp [hlt])
  · have honce := h.once
    rw [List.map_append] at honce ⊢
    exact honce
  · -- the last send changes neither its task nor its frame
    intro x hx
    rcases List.mem_append.mp hx with hx | hx
    · exact h.matched.of_send x (List.mem_append_left _ hx)
    · cases List.mem_singleton.mp hx
      exact h.matched.of_send ⟨i, part ++ left, part, none⟩
        (List.mem_append_right _ (List.mem_singleton_self _))
  · intro j u failure hj hresult
    refine (h.matched.of_task hj hresult).imp_left ?_
    rintro ⟨x, hx, hxj, hfailure⟩
    rcases List.mem_append.mp hx with hx | hx
    · exact ⟨x, List.mem_append_left _ hx, hxj, hfailure⟩
    · cases List.mem_singleton.mp hx
      exact ⟨_, List.mem_append_right _ (List.mem_singleton_self _), hxj, hfailure⟩
  · rw [h.written]
    simp [List.flatMap_append, List.append_assoc]

/-- The send that the writer is at ends, and the answer is settled with it. -/
theorem Sending.finish {left : Bytes} (failure : Option LinkError) (sent : Bytes)
    (h : Sending setup all written s) (hwriting : s.writing = some (i, left))
    (hend : ∀ part, left ≠ [] → Send.IsOver ⟨i, part ++ left, part ++ sent, failure⟩) :
    ∃ earlier part, all = earlier ++ [⟨i, part ++ left, part, none⟩] ∧
      Sending setup (earlier ++ [⟨i, part ++ left, part ++ sent, failure⟩]) (written ++ sent)
        { s.setStage i (.settled failure) with writing := none } := by
  have hcurrent := h.current
  rw [hwriting] at hcurrent
  obtain ⟨earlier, part, rfl, hover, hne⟩ := hcurrent.of_writing
  refine ⟨earlier, part, rfl, ?_⟩
  obtain ⟨t, hi, hframe, hstage⟩ := h.matched.of_send ⟨i, part ++ left, part, none⟩
    (List.mem_append_right _ (List.mem_singleton_self _))
  have honce := h.once
  rw [List.map_append, List.map_singleton, ← List.concat_eq_append, List.nodup_concat] at honce
  have hearlier : ∀ x ∈ earlier, x.task ≠ i := fun x hx hxi =>
    honce.1 (List.mem_map.mpr ⟨x, hx, hxi⟩)
  refine ⟨h.answering.setStage hi (by simp), .free ?_, ?_, ?_, ?_⟩
  · intro x hx
    rcases List.mem_append.mp hx with hx | hx
    · exact hover x hx
    · cases List.mem_singleton.mp hx
      exact hend part hne
  · rw [List.map_append, List.map_singleton, ← List.concat_eq_append, List.nodup_concat]
    exact honce
  · refine h.matched.setStage hi ?_ ?_ ?_
    · intro x hxi
      simp only [List.mem_append, List.mem_singleton]
      refine or_congr_right ⟨fun heq => absurd (congrArg Send.task heq) hxi,
        fun heq => absurd (congrArg Send.task heq) hxi⟩
    · intro x hx hxi
      rcases List.mem_append.mp hx with hx | hx
      · exact absurd hxi (hearlier x hx)
      · cases List.mem_singleton.mp hx
        exact ⟨hframe, Or.inr rfl⟩
    · intro result hresult
      cases hresult
      exact Or.inl ⟨_, List.mem_append_right _ (List.mem_singleton_self _), rfl, rfl⟩
  · rw [h.written]
    simp [List.flatMap_append, List.append_assoc]

/-! ## Steps and runs -/

theorem frame_ne_nil {reply : Reply} {limit : Nat} {seq : UInt64} {frame : Bytes}
    (h : reply.frameOrSubstitute limit seq = .ok frame) : frame ≠ [] := by
  have hframe : ∀ {r : Reply}, r.frame limit seq = .ok frame → frame ≠ [] := by
    intro r hr
    unfold Reply.frame at hr
    split at hr
    · cases hr
    · next body _ =>
      rw [Frame.encode?] at hr
      split at hr
      · cases hr
        exact Frame.encode_ne_nil body
      · cases hr
  rw [Reply.frameOrSubstitute] at h
  split at h
  · next frame' hfirst =>
    cases h
    exact hframe hfirst
  · exact hframe h

/-- **Sends and state stay in step**, as long as writing does not fail. -/
theorem sending_step {request : Option Request} {task : Option Nat} {frame : Option (Nat × Bytes)}
    (hc : Change setup s request task frame bytes s') (h : Sending setup all written s) :
    Sending setup (extendSends all frame bytes) (written ++ bytes) s' := by
  cases hc with
  | quiet _ htasks _ hwriting =>
    rw [extendSends_nothing, List.append_nil]
    exact ⟨htasks ▸ h.answering, hwriting ▸ h.current, h.once, htasks ▸ h.matched, h.written⟩
  | took request _ _ htasks _ hwriting =>
    rw [extendSends_nothing, List.append_nil]
    exact ⟨htasks ▸ h.answering.take request, hwriting ▸ h.current, h.once,
      htasks ▸ h.matched.take request, h.written⟩
  | acquired i request method _ hi _ =>
    rw [extendSends_nothing, List.append_nil]
    exact h.proceed .dispatched hi (by simp) rfl (by simp) rfl rfl
  | ran i request method reply hi hreply =>
    rw [extendSends_nothing, List.append_nil]
    have hhandler := (h.answering i _ hi).1
    refine h.proceed (.answered reply) hi (by simp) rfl ?_ rfl rfl
    intro reply' hstage
    cases hstage
    exact hreply hhandler.symm
  | began i t reply frame hnone hi hstage hframe =>
    rw [List.append_nil]
    exact h.begin hnone hi hstage hframe (frame_ne_nil hframe)
  | gaveUp i t reply cause _ hi hstage hframe =>
    rw [extendSends_nothing, List.append_nil]
    exact h.giveUp hi hstage hframe
  | wrote i n left hwriting _ hlt => exact h.continue hwriting hlt
  | wroteLast i _ hwriting =>
    obtain ⟨earlier, part, rfl, hsending⟩ := h.finish none bytes hwriting
      fun part _ => .whole i (part ++ bytes)
    rw [extendSends_concat]
    exact hsending
  | reported i request method failure hi =>
    rw [extendSends_nothing, List.append_nil]
    exact h.proceed (.reported failure) hi (by simp) rfl (by simp) rfl rfl
  | resumed i request failure _ hi =>
    rw [extendSends_nothing, List.append_nil]
    exact h.proceed (.reported failure) hi (by simp) rfl (by simp) rfl rfl

/-- **Sends and state agree after every run**, also when writing fails. -/
theorem sending_of_run {permits : Nat} {past : List (Moment State Label Effect)}
    (h : Run (step setup) (start permits) past s) :
    Sending setup (sends past) (record setup past).written s := by
  induction h with
  | start => exact sending_start setup permits
  | @snoc past s s' label shown hrun hstep ih =>
    rw [sends_snoc, record_snoc]
    cases hbreaks : label.breaks with
    | false =>
      rw [nextSends_of_not_breaks _ hbreaks]
      exact sending_step (change_of_step hbreaks hstep) ih
    | true =>
      obtain ⟨i, left, cause, rfl, hwriting, rfl, rfl⟩ := failed_of_step hbreaks hstep
      obtain ⟨earlier, part, heq, hsending⟩ := ih.finish (some cause) [] hwriting
        fun part hne => by
          rw [List.append_nil]
          exact .broken i part left cause hne
      rw [heq, nextSends]
      simp only [List.modifyLast_concat]
      rw [List.append_nil part] at hsending
      exact hsending

end RemoteCall.Connection
