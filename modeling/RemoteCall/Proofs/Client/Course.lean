import RemoteCall.Proofs.Client.Correlation
import RemoteCall.Proofs.Client.Moves

/-!
# How a call goes on

Where a caller is changes only by the caller's own steps.  `Course` lists them, with what each asks
for; everything else that happens leaves the caller where it is, though it may fill the slot of the
call (`course_of_step`).

So a caller that is open at some time is later either still open or has parted in one of four ways:
it took an outcome out of its slot, its request could not be encoded, it found the outbox closed, or
it gave up (`parting_of_run`).  Once it has parted it stays where it is (`stage_of_run`).
-/

namespace RemoteCall.Client

variable {setup : Setup} {s s' t : State} {label : Label} {shown : List Effect}
  {late : List (Moment State Label Effect)} {i : Nat} {c c' : Call}

/-- It is the same call, wherever its caller is. -/
structure Call.IsSame (c c' : Call) : Prop where
  method : c'.method = c.method
  payload : c'.payload = c.payload
  seq : c'.seq = c.seq

theorem Call.IsSame.refl (c : Call) : c.IsSame c := ⟨rfl, rfl, rfl⟩

theorem Call.IsSame.trans {c'' : Call} (h : c.IsSame c') (h' : c'.IsSame c'') : c.IsSame c'' :=
  ⟨h'.method.trans h.method, h'.payload.trans h.payload, h'.seq.trans h.seq⟩

/-- The call's request cannot be encoded, for this reason. -/
def Call.FailsToEncode (c : Call) (cause : LinkError) : Prop :=
  ∃ seq, c.seq = some seq ∧
    Envelope.encode (.request c.method (UInt64.ofNat seq)) c.payload = .error cause

theorem Call.FailsToEncode.congr {cause : LinkError} (h : c.FailsToEncode cause)
    (hsame : c.IsSame c') : c'.FailsToEncode cause := by
  obtain ⟨seq, hseq, hencode⟩ := h
  refine ⟨seq, hsame.seq.trans hseq, ?_⟩
  rw [hsame.method, hsame.payload]
  exact hencode

/-! ## Steps -/

/-- Where the caller of call `i` can be after a step with this label. -/
inductive Course (s : State) (i : Nat) (c : Call) : Label → Stage → Prop
  | still (label : Label) : Course s i c label c.stage
  | framed (frame : Bytes) : c.stage = .registered → Course s i c (.frame i) (.queueing frame)
  | notFramed (cause : LinkError) : c.stage = .registered → c.FailsToEncode cause →
      Course s i c (.frame i) (.failed (.link cause))
  | submitted (frame : Bytes) : c.stage = .queueing frame → Course s i c (.submit i) .waiting
  | notSubmitted (frame : Bytes) : c.stage = .queueing frame → s.outbox.isOpen = false →
      Course s i c (.submit i) (.failed .closed)
  | collected (outcome : Outcome) : c.stage = .waiting → c.slot = some outcome →
      Course s i c (.collect i) (.finished outcome)
  | abandoned : c.isOpen = true → Course s i c (.abandon i) .abandoned

/-- What becomes of call `i` where only call `k` changes. -/
theorem course_of_stage {k : Nat} {d : Call} {stage : Stage} (hk : s.calls[k]? = some d)
    (hcalls : s'.calls = s.calls.modify k fun c => { c with stage := stage })
    (hcourse : Course s k d label stage) (hi : s.calls[i]? = some c) :
    ∃ c', s'.calls[i]? = some c' ∧ c.IsSame c' ∧ Course s i c label c'.stage := by
  by_cases hki : k = i
  · subst hki
    cases hk.symm.trans hi
    refine ⟨{ c with stage := stage }, ?_, ⟨rfl, rfl, rfl⟩, hcourse⟩
    rw [hcalls, List.getElem?_modify_eq, hi]
    rfl
  · refine ⟨c, ?_, .refl c, .still label⟩
    rw [hcalls, List.getElem?_modify_ne _ s.calls hki, hi]

theorem course_of_append {d : Call} (hcalls : s'.calls = s.calls ++ [d])
    (hi : s.calls[i]? = some c) :
    ∃ c', s'.calls[i]? = some c' ∧ c.IsSame c' ∧ Course s i c label c'.stage := by
  refine ⟨c, ?_, .refl c, .still label⟩
  rw [hcalls, List.getElem?_append_left (List.getElem?_eq_some_iff.mp hi).1, hi]

/-- Whoever settles a call fills its slot and does not move its caller. -/
theorem course_of_perform {act : Act} {u : State} (h : u.perform act = (s', shown))
    (hcalls : u.calls = s.calls) (hi : s.calls[i]? = some c) :
    ∃ c', s'.calls[i]? = some c' ∧ c.IsSame c' ∧ Course s i c label c'.stage := by
  cases act with
  | announce event =>
    cases h
    exact ⟨c, by rw [hcalls, hi], .refl c, .still label⟩
  | settle k outcome =>
    cases h
    refine ⟨if k = i then if c.isOpen then { c with slot := some outcome } else c else c, ?_, ?_, ?_⟩
    · rw [State.settle, hcalls, List.getElem?_modify, hi]
      rfl
    · split
      · split
        · exact ⟨rfl, rfl, rfl⟩
        · exact .refl c
      · exact .refl c
    · split
      · split
        · exact .still label
        · exact .still label
      · exact .still label

/-- **What a step does to a call.** -/
theorem course_of_step (h : step setup s label = some (s', shown)) (hi : s.calls[i]? = some c) :
    ∃ c', s'.calls[i]? = some c' ∧ c.IsSame c' ∧ Course s i c label c'.stage := by
  have hforget : ∀ (d : Call) (k : Nat) (stage : Stage), ((s.forget d).setStage k stage).calls
      = s.calls.modify k fun c => { c with stage := stage } := fun d k stage =>
    congrArg (fun calls => List.modify calls k _) (calls_forget s d)
  cases move_of_step h with
  | began _ _ _ _ => exact course_of_append rfl hi
  | refused _ _ _ _ => exact course_of_append rfl hi
  | framed k d seq frame hk hstage _ _ => exact course_of_stage hk rfl (.framed frame hstage) hi
  | notFramed k d seq cause hk hstage hseq hencode =>
    exact course_of_stage hk (hforget d k _) (.notFramed cause hstage ⟨seq, hseq, hencode⟩) hi
  | submitted k d seq frame hk hstage _ _ _ =>
    exact course_of_stage hk rfl (.submitted frame hstage) hi
  | notSubmitted k d seq frame hk hstage _ hclosed =>
    exact course_of_stage hk (hforget d k _) (.notSubmitted frame hstage hclosed) hi
  | collected k d outcome hk hstage hslot =>
    exact course_of_stage hk rfl (.collected outcome hstage hslot) hi
  | abandoned k d hk hopen _ => exact course_of_stage hk (hforget d k _) (.abandoned hopen) hi
  | readerDid act _ _ hperform => exact course_of_perform hperform rfl hi
  | writerDid act _ _ hperform => exact course_of_perform hperform rfl hi
  | closerDid _ act _ _ _ hperform => exact course_of_perform hperform rfl hi
  | dropperDid act _ _ hperform => exact course_of_perform hperform rfl hi
  | _ => exact ⟨c, hi, .refl c, .still _⟩

theorem isOpen_of_stage (h : c'.stage = c.stage) : c'.isOpen = c.isOpen := by
  rw [Call.isOpen, Call.isOpen, h]

/-- A caller that is not open any more takes no steps. -/
theorem Course.eq_of_closed {stage : Stage} (h : Course s i c label stage)
    (hclosed : c.isOpen = false) : stage = c.stage := by
  cases h with
  | still => rfl
  | framed _ hstage => simp [Call.isOpen, hstage] at hclosed
  | notFramed _ hstage _ => simp [Call.isOpen, hstage] at hclosed
  | submitted _ hstage => simp [Call.isOpen, hstage] at hclosed
  | notSubmitted _ hstage _ => simp [Call.isOpen, hstage] at hclosed
  | collected _ hstage _ => simp [Call.isOpen, hstage] at hclosed
  | abandoned hopen =>
    rw [hclosed] at hopen
    cases hopen

/-! ## Runs -/

/-- Where the caller of call `i` is, or how it has parted in the course of these moments. -/
inductive Parting (late : List (Moment State Label Effect)) (i : Nat) (c : Call) : Prop
  | staying : c.isOpen = true → Parting late i c
  | finished (outcome : Outcome) : c.stage = .finished outcome → Parting late i c
  | unframed (cause : LinkError) : c.stage = .failed (.link cause) → c.FailsToEncode cause →
      Parting late i c
  /-- It wanted to hand its frame over after the outbox was closed. -/
  | turnedAway (n : Moment State Label Effect) : c.stage = .failed .closed → n ∈ late →
      n.label = .submit i → n.before.outbox.isOpen = false → Parting late i c
  | abandoned (n : Moment State Label Effect) : c.stage = .abandoned → n ∈ late →
      n.label = .abandon i → Parting late i c

/-- Who has parted stays parted. -/
theorem Parting.stay (h : Parting late i c) (hsame : c.IsSame c') (hstage : c'.stage = c.stage)
    (m : Moment State Label Effect) : Parting (late ++ [m]) i c' := by
  cases h with
  | staying hopen => exact .staying ((isOpen_of_stage hstage).trans hopen)
  | finished outcome hfinished => exact .finished outcome (hstage.trans hfinished)
  | unframed cause hfailed hencode =>
    exact .unframed cause (hstage.trans hfailed) (hencode.congr hsame)
  | turnedAway n hfailed hn hlabel hclosed =>
    exact .turnedAway n (hstage.trans hfailed) (List.mem_append_left _ hn) hlabel hclosed
  | abandoned n hgone hn hlabel =>
    exact .abandoned n (hstage.trans hgone) (List.mem_append_left _ hn) hlabel

theorem Parting.step (h : Parting late i c) (hsame : c.IsSame c')
    (hcourse : Course s i c label c'.stage) :
    Parting (late ++ [⟨s, label, s', shown⟩]) i c' := by
  have hlast : ⟨s, label, s', shown⟩ ∈ late ++ [⟨s, label, s', shown⟩] :=
    List.mem_append_right _ (List.mem_singleton_self _)
  generalize hstage : c'.stage = stage at hcourse
  cases hcourse with
  | still => exact h.stay hsame hstage _
  | framed frame _ => exact .staying (by rw [Call.isOpen, hstage])
  | notFramed cause _ hencode => exact .unframed cause hstage (hencode.congr hsame)
  | submitted frame _ => exact .staying (by rw [Call.isOpen, hstage])
  | notSubmitted frame _ hclosed => exact .turnedAway _ hstage hlast rfl hclosed
  | collected outcome _ _ => exact .finished outcome hstage
  | abandoned _ => exact .abandoned _ hstage hlast rfl

/-- **How a call has gone on** that was open when a run began. -/
theorem parting_of_run (h : Run (step setup) s late t) (hi : s.calls[i]? = some c)
    (hopen : c.isOpen = true) :
    ∃ c', t.calls[i]? = some c' ∧ c.IsSame c' ∧ Parting late i c' := by
  induction h with
  | start => exact ⟨c, hi, .refl c, .staying hopen⟩
  | snoc _ hstep ih =>
    obtain ⟨d, hd, hsame, hparting⟩ := ih
    obtain ⟨d', hd', hsame', hcourse⟩ := course_of_step hstep hd
    exact ⟨d', hd', hsame.trans hsame', hparting.step hsame' hcourse⟩

/-- **A caller that has parted stays where it is.** -/
theorem stage_of_run (h : Run (step setup) s late t) (hi : s.calls[i]? = some c)
    (hclosed : c.isOpen = false) : ∃ c', t.calls[i]? = some c' ∧ c'.stage = c.stage := by
  induction h with
  | start => exact ⟨c, hi, rfl⟩
  | snoc _ hstep ih =>
    obtain ⟨d, hd, hstage⟩ := ih
    obtain ⟨d', hd', _, hcourse⟩ := course_of_step hstep hd
    refine ⟨d', hd', (hcourse.eq_of_closed ?_).trans hstage⟩
    rw [isOpen_of_stage hstage]
    exact hclosed

end RemoteCall.Client
