import RemoteCall.Proofs.Client.Outbox

/-!
# The writer writes whole frames, in order

`Outflow` is what stays true of the outbox and the writer as long as writing does not fail: what was
taken out stands at the front of what was put in, and what was written are the frames of what was
taken out and is within the limit, but for the rest of the frame that the writer is at.

The writer leaves in two ways, because it was told to close or because nobody is left.  Either way
it has by then taken out all that was put in ahead of the first request to close (`Progress`), and
has written it (`Outflow.complete`).  Afterwards it writes nothing more (`silent_of_run`).
-/

namespace RemoteCall.Client

variable {setup : Setup} {s s' : State} {past : List (Moment State Label Effect)} {limit : Nat}

/-- Between frames nothing is left to be written. -/
theorem unwritten_of_not_writing (h : ∀ left, s.writer.phase ≠ .writing left) :
    s.unwritten = [] := by
  rw [State.unwritten]
  split
  · next left hwriting => exact absurd hwriting (h left)
  · rfl

/-! ## What stays true -/

/-- Whether the writer still takes things out of the outbox. -/
def WriterPhase.isWorking : WriterPhase → Bool
  | .idle => true
  | .writing _ => true
  | _ => false

/-- What is left of a frame that is being written is not empty. -/
def WriterPhase.IsSound : WriterPhase → Prop
  | .writing left => left ≠ []
  | _ => True

/-- How far the writer is, with what was put into the outbox and taken out. -/
inductive Progress (put taken : List Item) (s : State) : Prop
  /-- It is at work, and was not told to close. -/
  | notYet : s.writer.phase.isWorking = true → .close ∉ taken → Progress put taken s
  /-- It was told to close, behind all that stood ahead of that. -/
  | told : s.writer.phase.isWorking = false → taken = ahead put ++ [.close] → Progress put taken s
  /-- It has found that nobody is left, and has taken all there was. -/
  | alone : s.writer.phase.isWorking = false → s.dropped.isSome = true → taken = ahead put →
      Progress put taken s

/-- What was put into the outbox, taken out and written. -/
structure Outflow (limit : Nat) (put taken : List Item) (bytes : Bytes) (s : State) : Prop where
  queue : ∃ behind, put = taken ++ behind ∧ (s.outbox.isOpen = true → s.outbox.items = behind)
  isOpen : s.writer.phase ≠ .ended → s.outbox.isOpen = true
  bytes : bytes ++ s.unwritten = Frame.stream (bodiesWithin limit taken)
  sound : s.writer.phase.IsSound
  progress : Progress put taken s

theorem outflow_start (limit : Nat) : Outflow limit [] [] [] start where
  queue := ⟨[], rfl, fun _ => rfl⟩
  isOpen _ := rfl
  bytes := rfl
  sound := trivial
  progress := .notYet rfl List.not_mem_nil

variable {put taken : List Item} {bytes : Bytes}

/-- While the writer is at work, the outbox holds what was put in and not taken out. -/
theorem Outflow.items (h : Outflow limit put taken bytes s) (hidle : s.writer.phase = .idle) :
    put = taken ++ s.outbox.items := by
  obtain ⟨behind, hput, hitems⟩ := h.queue
  rw [hitems (h.isOpen (by rw [hidle]; exact fun heq => by cases heq))]
  exact hput

theorem Outflow.not_close (h : Outflow limit put taken bytes s)
    (hworking : s.writer.phase.isWorking = true) : .close ∉ taken := by
  cases h.progress with
  | notYet _ hnot => exact hnot
  | told hleft _ => rw [hworking] at hleft; cases hleft
  | alone hleft _ _ => rw [hworking] at hleft; cases hleft

/-- Something is put in, by somebody who uses the client. -/
theorem Outflow.post (h : Outflow limit put taken bytes s) (hs : Deserted s)
    (hused : s.isUsed = true) (item : Item) (hopen : s.outbox.isOpen = true)
    (houtbox : s'.outbox = { s.outbox with items := s.outbox.items ++ [item] })
    (hphase : s'.writer.phase = s.writer.phase) :
    Outflow limit (put ++ [item]) taken bytes s' := by
  obtain ⟨behind, hput, hitems⟩ := h.queue
  refine ⟨⟨behind ++ [item], ?_, ?_⟩, ?_, ?_, ?_, ?_⟩
  · rw [hput, List.append_assoc]
  · intro _
    rw [houtbox, hitems hopen]
  · intro _
    rw [houtbox]
    exact hopen
  · rw [unwritten_of_phase hphase]
    exact h.bytes
  · rw [hphase]
    exact h.sound
  · cases h.progress with
    | notYet hworking hnot => exact .notYet (hphase.symm ▸ hworking) hnot
    | told hleft htaken =>
      -- it stands behind the request to close
      have hmem : .close ∈ put := by
        rw [hput, htaken]
        exact List.mem_append_left _ (List.mem_append_right _ (List.mem_singleton_self _))
      refine .told (hphase.symm ▸ hleft) ?_
      rw [ahead_append_of_mem hmem]
      exact htaken
    | alone _ hdropped _ =>
      rw [hs hdropped] at hused
      cases hused

/-- A request is taken out. -/
theorem Outflow.take {n : Nat} {body : Bytes} (h : Outflow limit put taken bytes s)
    (hidle : s.writer.phase = .idle) (hitems : s.outbox.items = .request n body :: s'.outbox.items)
    (hopen : s'.outbox.isOpen = s.outbox.isOpen) (hworking : s'.writer.phase.isWorking = true)
    (hbytes : s'.unwritten = Frame.stream (bodiesWithin limit [.request n body]))
    (hsound : s'.writer.phase.IsSound) :
    Outflow limit put (taken ++ [.request n body]) bytes s' := by
  have hput := h.items hidle
  have hnot := h.not_close (by rw [hidle]; rfl)
  refine ⟨⟨s'.outbox.items, ?_, fun _ => rfl⟩, ?_, ?_, hsound, .notYet hworking ?_⟩
  · rw [hput, hitems, List.append_assoc]
    rfl
  · intro _
    rw [hopen]
    exact h.isOpen (by rw [hidle]; exact fun heq => by cases heq)
  · have hdone := h.bytes
    rw [State.unwritten, hidle, List.append_nil] at hdone
    rw [hbytes, hdone, bodiesWithin_append, Frame.stream_append]
  · intro hmem
    rcases List.mem_append.mp hmem with hmem | hmem
    · exact hnot hmem
    · cases List.mem_singleton.mp hmem

/-- The writer writes, or goes on without taking anything out. -/
theorem Outflow.advance {more : Bytes} (h : Outflow limit put taken bytes s)
    (houtbox : s'.outbox = s.outbox) (hbytes : s.unwritten = more ++ s'.unwritten)
    (hsound : s'.writer.phase.IsSound)
    (hworking : s'.writer.phase.isWorking = s.writer.phase.isWorking)
    (hended : s'.writer.phase ≠ .ended → s.writer.phase ≠ .ended)
    (hdropped : s.dropped.isSome = true → s'.dropped.isSome = true) :
    Outflow limit put taken (bytes ++ more) s' := by
  refine ⟨houtbox.symm ▸ h.queue, fun hphase => houtbox.symm ▸ h.isOpen (hended hphase), ?_,
    hsound, ?_⟩
  · rw [List.append_assoc, ← hbytes]
    exact h.bytes
  · cases h.progress with
    | notYet hw hnot => exact .notYet (hworking.trans hw) hnot
    | told hw htaken => exact .told (hworking.trans hw) htaken
    | alone hw hd htaken => exact .alone (hworking.trans hw) (hdropped hd) htaken

/-- The writer leaves, and has taken out what was put in ahead of the first request to close. -/
theorem Outflow.leave {last : List Item} (h : Outflow limit put taken bytes s)
    (hidle : s.writer.phase = .idle) (hitems : s.outbox.items = last ++ s'.outbox.items)
    (hlast : bodiesWithin limit last = []) (hopen : s'.outbox.isOpen = s.outbox.isOpen)
    (hphase : s'.writer.phase = .closing) (hprogress : Progress put (taken ++ last) s') :
    Outflow limit put (taken ++ last) bytes s' := by
  have hput := h.items hidle
  refine ⟨⟨s'.outbox.items, ?_, fun _ => rfl⟩, ?_, ?_, ?_, hprogress⟩
  · rw [hput, hitems, List.append_assoc]
  · intro _
    rw [hopen]
    exact h.isOpen (by rw [hidle]; exact fun heq => by cases heq)
  · have hdone := h.bytes
    rw [State.unwritten, hidle] at hdone
    rw [State.unwritten, hphase, bodiesWithin_append, hlast, List.append_nil (bodiesWithin _ _)]
    exact hdone
  · rw [hphase]
    trivial

/-- The writer is gone, and the outbox with it. -/
theorem Outflow.retire (h : Outflow limit put taken bytes s) (hclosed : s.writer.phase = .closed)
    (hopen : s'.outbox.isOpen = false) (hphase : s'.writer.phase = .ended)
    (hdropped : s.dropped.isSome = true → s'.dropped.isSome = true) :
    Outflow limit put taken bytes s' := by
  obtain ⟨behind, hput, _⟩ := h.queue
  refine ⟨⟨behind, hput, ?_⟩, fun hended => absurd hphase hended, ?_, ?_, ?_⟩
  · intro hopen'
    rw [hopen] at hopen'
    cases hopen'
  · have hbytes := h.bytes
    rw [State.unwritten, hclosed] at hbytes
    rw [State.unwritten, hphase]
    exact hbytes
  · rw [hphase]
    trivial
  · cases h.progress with
    | notYet hworking _ =>
      rw [hclosed] at hworking
      cases hworking
    | told _ htaken => exact .told (by rw [hphase]; rfl) htaken
    | alone _ hsome htaken => exact .alone (by rw [hphase]; rfl) (hdropped hsome) htaken

/-- **Whatever happens to the outbox**, as long as writing does not fail. -/
theorem Outflow.haul {ins outs : List Item} {more : Bytes} (h : Outflow limit put taken bytes s)
    (hs : Deserted s) (hdropped : s.dropped.isSome = true → s'.dropped.isSome = true)
    (hhaul : Haul limit s s' ins outs more) :
    Outflow limit (put ++ ins) (taken ++ outs) (bytes ++ more) s' := by
  cases hhaul with
  | aside houtbox hphase =>
    rw [List.append_nil, List.append_nil]
    refine h.advance houtbox (unwritten_of_phase hphase).symm ?_ (congrArg _ hphase) ?_ hdropped
    · rw [hphase]
      exact h.sound
    · rw [hphase]
      exact id
  | handedOver i c n body hi hstage _ hopen houtbox hphase _ =>
    have hused : s.isUsed = true := isUsed_iff.mpr
      (Or.inr (Or.inl ⟨c, List.mem_of_getElem? hi, by rw [Call.holdsClient, hstage]⟩))
    rw [List.append_nil, List.append_nil]
    exact h.post hs hused _ hopen houtbox hphase
  | askedToClose k c hk hstage hopen houtbox hphase =>
    have hused : s.isUsed = true := isUsed_iff.mpr
      (Or.inr (Or.inr ⟨c, List.mem_of_getElem? hk, by rw [hstage]; exact fun heq => by cases heq⟩))
    rw [List.append_nil, List.append_nil]
    exact h.post hs hused _ hopen houtbox hphase
  | began n body hidle hitems hopen hle hphase =>
    rw [List.append_nil, List.append_nil]
    refine h.take hidle hitems hopen (by rw [hphase]; rfl) ?_ ?_
    · rw [State.unwritten, hphase, bodiesWithin_of_le hle, Frame.stream_cons, Frame.stream_nil,
        List.append_nil]
    · rw [hphase]
      exact Frame.encode_ne_nil body
  | refused n body hidle hitems hopen hlt hphase =>
    rw [List.append_nil, List.append_nil]
    refine h.take hidle hitems hopen (by rw [hphase]; rfl) ?_ ?_
    · rw [State.unwritten, hphase, bodiesWithin_of_lt hlt]
      rfl
    · rw [hphase]
      trivial
  | toldToClose hidle hitems hopen hphase =>
    have hnot := h.not_close (by rw [hidle]; rfl)
    rw [List.append_nil, List.append_nil]
    refine h.leave hidle hitems rfl hopen hphase (.told (by rw [hphase]; rfl) ?_)
    rw [h.items hidle, hitems, ahead_append_of_not_mem hnot, ahead, List.append_nil]
  | leftAlone hidle hitems hsome houtbox hphase =>
    have hnot := h.not_close (by rw [hidle]; rfl)
    have hput := h.items hidle
    rw [hitems] at hput
    rw [List.append_nil, List.append_nil bytes]
    refine h.leave hidle (by rw [houtbox]; rfl) rfl (by rw [houtbox]) hphase
      (.alone (by rw [hphase]; rfl) (hdropped hsome) ?_)
    rw [hput, ahead_append_of_not_mem hnot]
    rfl
  | wrote more rest hwriting hrest houtbox hphase =>
    rw [List.append_nil, List.append_nil]
    refine h.advance houtbox ?_ ?_ (by rw [hphase, hwriting]; rfl) ?_ hdropped
    · rw [State.unwritten, State.unwritten, hphase, hwriting]
    · rw [hphase]
      exact hrest
    · rw [hwriting]
      exact fun _ heq => by cases heq
  | wroteLast _ hwriting houtbox hphase =>
    rw [List.append_nil, List.append_nil]
    refine h.advance houtbox ?_ ?_ (by rw [hphase, hwriting]; rfl) ?_ hdropped
    · rw [State.unwritten, State.unwritten, hphase, hwriting, List.append_nil]
    · rw [hphase]
      trivial
    · rw [hwriting]
      exact fun _ heq => by cases heq
  | outputEnded hclosing houtbox hphase =>
    rw [List.append_nil, List.append_nil]
    refine h.advance houtbox ?_ ?_ (by rw [hphase, hclosing]; rfl) ?_ hdropped
    · rw [State.unwritten, State.unwritten, hphase, hclosing]
      rfl
    · rw [hphase]
      trivial
    · rw [hclosing]
      exact fun _ heq => by cases heq
  | retired hclosed hopen hphase =>
    rw [List.append_nil, List.append_nil, List.append_nil]
    exact h.retire hclosed hopen hphase hdropped

/-- Between frames, what was written are whole frames, and a reader finds their bodies. -/
theorem Outflow.whole (h : Outflow limit put taken bytes s) (hlimit : limit ≤ Frame.longest)
    (hbetween : ∀ left, s.writer.phase ≠ .writing left) :
    bytes = Frame.stream (bodiesWithin limit taken) ∧
      Frame.bodies bytes = bodiesWithin limit taken := by
  have hbytes := h.bytes
  rw [unwritten_of_not_writing hbetween, List.append_nil] at hbytes
  refine ⟨hbytes, ?_⟩
  rw [hbytes]
  exact Frame.bodies_stream fun body hbody =>
    Nat.le_trans (length_le_of_mem_bodiesWithin hbody) hlimit

/-! ## Runs -/

/-- The pipe refuses to take what is written. -/
def Label.failsToWrite : Label → Bool
  | .failWrite _ => true
  | _ => false

/-- Writing never failed. -/
def WritesSucceed (past : List (Moment State Label Effect)) : Prop :=
  ∀ m ∈ past, m.label.failsToWrite = false

instance : Decidable (WritesSucceed past) :=
  inferInstanceAs (Decidable (∀ m ∈ past, m.label.failsToWrite = false))

theorem WritesSucceed.of_append {early late : List (Moment State Label Effect)}
    (h : WritesSucceed (early ++ late)) : WritesSucceed early ∧ WritesSucceed late :=
  ⟨fun m hm => h m (List.mem_append_left _ hm), fun m hm => h m (List.mem_append_right _ hm)⟩

theorem WritesSucceed.label {m : Moment State Label Effect} (h : WritesSucceed past)
    (hm : m ∈ past) (cause : LinkError) : m.label ≠ .failWrite cause := by
  intro hlabel
  have hsucceeds := h m hm
  rw [hlabel] at hsucceeds
  cases hsucceeds

theorem WritesSucceed.last {m : Moment State Label Effect} (h : WritesSucceed (past ++ [m])) :
    ∀ cause, m.label ≠ .failWrite cause :=
  h.label (List.mem_append_right _ (List.mem_singleton_self m))

/-- **What stays true of the outbox**, after every run in which writing does not fail. -/
theorem outflow_of_run (h : Run (step setup) start past s) (hwrites : WritesSucceed past) :
    Outflow setup.frameLimit (posted past) (fetched past) (written past) s := by
  induction h with
  | start => exact outflow_start setup.frameLimit
  | snoc hrun hstep ih =>
    have hbefore := ih hwrites.of_append.1
    have hhaul := haul_of_move (move_of_step hstep) hwrites.last
    rw [posted_append, fetched_append, written_append, posted_singleton, fetched_singleton,
      written_singleton]
    exact hbefore.haul (deserted_of_run hrun) (dropped_step hstep) hhaul

/-! ## After the writer has left -/

/-- Once the writer has stopped working, it takes nothing and writes nothing. -/
theorem Haul.idle {ins outs : List Item} {more : Bytes} (h : Haul limit s s' ins outs more)
    (hleft : s.writer.phase.isWorking = false) :
    outs = [] ∧ more = [] ∧ s'.writer.phase.isWorking = false := by
  have hnot {phase : WriterPhase} (hphase : s.writer.phase = phase) :
      phase.isWorking = false := hphase ▸ hleft
  cases h with
  | aside _ hphase => exact ⟨rfl, rfl, hphase.symm ▸ hleft⟩
  | handedOver _ _ _ _ _ _ _ _ _ hphase _ => exact ⟨rfl, rfl, hphase.symm ▸ hleft⟩
  | askedToClose _ _ _ _ _ _ hphase => exact ⟨rfl, rfl, hphase.symm ▸ hleft⟩
  | began _ _ hidle _ _ _ _ => cases hnot hidle
  | refused _ _ hidle _ _ _ _ => cases hnot hidle
  | toldToClose hidle _ _ _ => cases hnot hidle
  | leftAlone hidle _ _ _ _ => cases hnot hidle
  | wrote _ _ hwriting _ _ _ => cases hnot hwriting
  | wroteLast _ hwriting _ _ => cases hnot hwriting
  | outputEnded _ _ hphase => exact ⟨rfl, rfl, by rw [hphase]; rfl⟩
  | retired _ _ hphase => exact ⟨rfl, rfl, by rw [hphase]; rfl⟩

/-- Once it is told to close, the writer stops working. -/
theorem Haul.stops {ins : List Item} {more : Bytes} (h : Haul limit s s' ins [.close] more) :
    s'.writer.phase.isWorking = false := by
  cases h with
  | toldToClose _ _ _ hphase =>
    rw [hphase]
    rfl

/-- Writing fails only in the middle of a frame. -/
theorem writing_of_failsToWrite {label : Label} {shown : List Effect}
    (h : Move setup s label s' shown) (hfails : label.failsToWrite = true) :
    ∃ left, s.writer.phase = .writing left ∧ s'.writer.phase = .closing ∧ shown = [] := by
  cases h with
  | writeFailed cause todo left hwriter =>
    exact ⟨left, congrArg Writer.phase hwriter, rfl, rfl⟩
  | _ => cases hfails

/-- So it does not fail any more after the writer has left, and nothing more is written. -/
theorem silent_of_run {late : List (Moment State Label Effect)} (h : Run (step setup) s late s')
    (hleft : s.writer.phase.isWorking = false) :
    WritesSucceed late ∧ fetched late = [] ∧ written late = [] ∧
      s'.writer.phase.isWorking = false := by
  induction h with
  | start => exact ⟨fun _ hm => (by cases hm), rfl, rfl, hleft⟩
  | @snoc late t t' label shown _ hstep ih =>
    obtain ⟨hsucceeds, hfetched, hwritten, hidle⟩ := ih
    have hmove := move_of_step hstep
    have hlabel : label.failsToWrite = false := by
      rw [← Bool.not_eq_true]
      intro hfails
      obtain ⟨left, hwriting, _⟩ := writing_of_failsToWrite hmove hfails
      rw [hwriting] at hidle
      cases hidle
    have hall : WritesSucceed (late ++ [⟨t, label, t', shown⟩]) := by
      intro m hm
      rcases List.mem_append.mp hm with hm | hm
      · exact hsucceeds m hm
      · cases List.mem_singleton.mp hm
        exact hlabel
    obtain ⟨houts, hmore, hidle'⟩ := (haul_of_move hmove hall.last).idle hidle
    rw [fetched_append, written_append, fetched_singleton, written_singleton, hfetched, hwritten,
      houts, hmore]
    exact ⟨hall, rfl, rfl, hidle'⟩

/-- Once the writer has stopped working, it has written all that was ahead of the first request to
close and within the limit. -/
theorem Outflow.complete (h : Outflow limit put taken bytes s)
    (hleft : s.writer.phase.isWorking = false) :
    bytes = Frame.stream (bodiesWithin limit (ahead put)) := by
  have hrest : s.unwritten = [] := by
    refine unwritten_of_not_writing fun left hwriting => ?_
    rw [hwriting] at hleft
    cases hleft
  have hbytes := h.bytes
  rw [hrest, List.append_nil] at hbytes
  rw [hbytes]
  cases h.progress with
  | notYet hworking _ =>
    rw [hworking] at hleft
    cases hleft
  | told _ htaken => rw [htaken, bodiesWithin_append, bodiesWithin_close, List.append_nil]
  | alone _ _ htaken => rw [htaken]

end RemoteCall.Client
