import RemoteCall.Proofs.Client.Conclusion
import RemoteCall.Proofs.Client.Course
import RemoteCall.Proofs.Client.Table
import RemoteCall.Proofs.Client.Writing

/-!
# Calls that are lost with the connection

When the connection fails under the reader or the writer, the calls on the table are lost, and their
callers are told so with the text of the failure, wherever they are by then.  `Losses` says how far
that goes.

There are two ways to the same caller: its slot, where the loss appears, and the outbox, to which it
may still have to hand its frame.  A caller looks into its slot only after it has handed over.  When
the writer has left, the outbox is closed; a caller that comes then is turned away, as if somebody
had closed the client, and never sees what is in its slot (`exists_turnedAway`).  This is the only
way in which a caller is told anything else, and it cannot happen to one that has handed its frame
over by the time at which the connection fails.
-/

namespace RemoteCall.Client

variable {setup : Setup} {s s' t : State} {label : Label} {shown : List Effect}
  {past early late : List (Moment State Label Effect)} {m : Moment State Label Effect} {i : Nat}
  {c c' : Call} {cause : LinkError}

/-! ## What becomes of a call -/

/-- What the caller of a lost call is told. -/
def lost (cause : LinkError) : Outcome := .error (.lost cause.message)

/-- What has become of call `i`, which the failure of the connection took off the table, in the
course of what happened since. -/
inductive Loss (late : List (Moment State Label Effect)) (s : State) (cause : LinkError) (i : Nat)
    (c : Call) : Prop
  /-- Its caller was told that it is lost. -/
  | told : c.stage = .finished (lost cause) → Loss late s cause i c
  /-- Its caller is there, and finds that in its slot. -/
  | settled : c.isOpen = true → c.slot = some (lost cause) → Loss late s cause i c
  /-- Its caller is there, and some party is bound to put that into its slot. -/
  | owed (p : Party) : c.isOpen = true → c.slot = none → Act.settle i (lost cause) ∈ s.duty p →
      Loss late s cause i c
  /-- Its caller gave up. -/
  | abandoned (n : Moment State Label Effect) : c.stage = .abandoned → n ∈ late →
      n.label = .abandon i → Loss late s cause i c
  /-- Its request could not be encoded. -/
  | unframed (reason : LinkError) : c.stage = .failed (.link reason) → c.FailsToEncode reason →
      Loss late s cause i c
  /-- Its caller wanted to hand its frame over after the writer had left. -/
  | turnedAway (n : Moment State Label Effect) : c.stage = .failed .closed → n ∈ late →
      n.label = .submit i → n.before.writer.phase = .ended → Loss late s cause i c

/-- The caller of call `i` or some party can do something that is not a failure. -/
def CanGoOn (setup : Setup) (s : State) (i : Nat) : Prop :=
  ∃ label, (step setup s label).isSome = true ∧ label.failsToWrite = false ∧
    (label = .frame i ∨ label = .submit i ∨ label = .collect i ∨ ∃ p, label.party? = some p)

/-- What becomes of the calls on the table when the connection fails at the moment `m`, behind which
came the moments `late`. -/
structure Losses (setup : Setup) (early : List (Moment State Label Effect))
    (m : Moment State Label Effect) (late : List (Moment State Label Effect)) (s : State)
    (cause : LinkError) : Prop where
  /-- Until then each of them was open, and had received nothing. -/
  pending : ∀ entry ∈ m.before.pending.entries,
    received early entry.call = [] ∧ ∃ c, m.before.calls[entry.call]? = some c ∧ c.isOpen = true
  /-- Its caller is told that it is lost, gave up, has no frame to hand over, or was turned away. -/
  fate : ∀ entry ∈ m.before.pending.entries, ∃ c, s.calls[entry.call]? = some c ∧
    c.seq = some entry.seq ∧ Loss late s cause entry.call c
  /-- It never receives anything else, and in particular no response. -/
  never : ∀ entry ∈ m.before.pending.entries,
    ∀ outcome ∈ received (early ++ m :: late) entry.call, outcome = lost cause
  /-- A caller is turned away if and only if it comes after the writer has left. -/
  turnedAway_iff : ∀ entry ∈ m.before.pending.entries,
    (∃ c, s.calls[entry.call]? = some c ∧ c.stage = .failed .closed) ↔
      ∃ n ∈ late, n.label = .submit entry.call ∧ n.before.writer.phase = .ended
  /-- That does not happen to one that had handed its frame over. -/
  waiting : ∀ entry ∈ m.before.pending.entries, ∀ c, m.before.calls[entry.call]? = some c →
    c.stage = .waiting → ∀ n ∈ late, n.label ≠ .submit entry.call
  /-- As long as its caller is there, somebody can go on. -/
  goesOn : ∀ entry ∈ m.before.pending.entries, ∀ c, s.calls[entry.call]? = some c →
    c.isOpen = true → CanGoOn setup s entry.call

/-! ## The writer and its outbox -/

/-- The outbox is open until the writer has left, and the frame that the writer is at is not over. -/
structure Manned (s : State) : Prop where
  ended_iff : s.writer.phase = .ended ↔ s.outbox.isOpen = false
  sound : s.writer.phase.IsSound

theorem Manned.of_eq (h : Manned s) (hopen : s'.outbox.isOpen = s.outbox.isOpen)
    (hphase : s'.writer.phase = s.writer.phase) : Manned s' := by
  refine ⟨?_, hphase.symm ▸ h.sound⟩
  rw [hopen, hphase]
  exact h.ended_iff

/-- The writer does something else, and does not leave. -/
theorem Manned.of_phase {phase phase' : WriterPhase} (h : Manned s)
    (hopen : s'.outbox.isOpen = s.outbox.isOpen) (hwas : s.writer.phase = phase)
    (hphase : s'.writer.phase = phase') (hne : phase ≠ .ended) (hne' : phase' ≠ .ended)
    (hsound : phase'.IsSound) : Manned s' := by
  refine ⟨?_, hphase.symm ▸ hsound⟩
  rw [hopen, hphase, ← h.ended_iff, hwas]
  exact iff_of_false hne' hne

theorem Manned.haul {limit : Nat} {ins outs : List Item} {more : Bytes} (h : Manned s)
    (hhaul : Haul limit s s' ins outs more) : Manned s' := by
  cases hhaul with
  | aside houtbox hphase => exact h.of_eq (by rw [houtbox]) hphase
  | handedOver i c n body _ _ _ _ houtbox hphase _ => exact h.of_eq (by rw [houtbox]) hphase
  | askedToClose k c _ _ _ houtbox hphase => exact h.of_eq (by rw [houtbox]) hphase
  | began n body hidle _ hopen _ hphase =>
    exact h.of_phase hopen hidle hphase (by simp) (by simp) (Frame.encode_ne_nil body)
  | refused n body hidle _ hopen _ hphase =>
    exact h.of_phase hopen hidle hphase (by simp) (by simp) trivial
  | toldToClose hidle _ hopen hphase =>
    exact h.of_phase hopen hidle hphase (by simp) (by simp) trivial
  | leftAlone hidle _ _ houtbox hphase =>
    exact h.of_phase (by rw [houtbox]) hidle hphase (by simp) (by simp) trivial
  | wrote bytes rest hwriting hne houtbox hphase =>
    exact h.of_phase (by rw [houtbox]) hwriting hphase (by simp) (by simp) hne
  | wroteLast left hwriting houtbox hphase =>
    exact h.of_phase (by rw [houtbox]) hwriting hphase (by simp) (by simp) trivial
  | outputEnded hclosing houtbox hphase =>
    exact h.of_phase (by rw [houtbox]) hclosing hphase (by simp) (by simp) trivial
  | retired _ hopen hphase =>
    refine ⟨iff_of_true hphase hopen, ?_⟩
    rw [hphase]
    trivial

theorem manned_of_run (h : Run (step setup) start past s) : Manned s := by
  induction h with
  | start => exact ⟨iff_of_false (by simp [start]) (by simp [start]), trivial⟩
  | @snoc past s s' label shown _ hstep ih =>
    cases hfails : label.failsToWrite with
    | false =>
      refine ih.haul (haul_of_move (move_of_step hstep) ?_)
      rintro cause rfl
      cases hfails
    | true =>
      cases move_of_step hstep with
      | writeFailed cause todo left hwriter =>
        exact ih.of_phase rfl (congrArg Writer.phase hwriter) rfl (by simp) (by simp) trivial
      | _ => cases hfails

/-- As long as something is in the outbox, the writer can go on. -/
theorem canWrite_of_open (setup : Setup) (h : Manned s) (hopen : s.outbox.isOpen = true)
    (hitems : s.outbox.items ≠ []) : CanWrite setup s := by
  rcases hwriter : s.writer with ⟨todo, phase⟩
  have hphase : s.writer.phase = phase := by rw [hwriter]
  cases todo with
  | cons act todo =>
    refine ⟨.writerAct, rfl, rfl, ?_⟩
    rw [step, hwriter]
    rfl
  | nil =>
    cases phase with
    | idle =>
      obtain ⟨item, items, hcons⟩ := List.exists_cons_of_ne_nil hitems
      exact canWrite_of_item hwriter hcons
    | writing left =>
      have hne : WriterPhase.IsSound (.writing left) := hphase ▸ h.sound
      exact canWrite_of_left hwriter hne
    | closing =>
      refine ⟨.endOutput, rfl, rfl, ?_⟩
      rw [step, hwriter]
      rfl
    | closed =>
      refine ⟨.retire, rfl, rfl, ?_⟩
      rw [step, hwriter]
      rfl
    | ended =>
      rw [h.ended_iff.mp hphase] at hopen
      cases hopen

/-! ## Nobody is stuck -/

/-- Whoever does an act is a party, and does not write. -/
theorem party_of_nextAct {act : Act} (h : s.nextAct label = some act) :
    (∃ p, label.party? = some p) ∧ label.failsToWrite = false := by
  cases label with
  | readerAct => exact ⟨⟨_, rfl⟩, rfl⟩
  | writerAct => exact ⟨⟨_, rfl⟩, rfl⟩
  | closerAct k => exact ⟨⟨_, rfl⟩, rfl⟩
  | dropperAct => exact ⟨⟨_, rfl⟩, rfl⟩
  | _ => cases h

theorem canGoOn_of_duty {p : Party} {act : Act} (setup : Setup) (h : act ∈ s.duty p) (i : Nat) :
    CanGoOn setup s i := by
  obtain ⟨first, rest, hduty⟩ := List.exists_cons_of_ne_nil (List.ne_nil_of_mem h)
  obtain ⟨label, hstep, hact⟩ := able_of_duty setup hduty
  obtain ⟨hparty, hwrites⟩ := party_of_nextAct hact
  exact ⟨label, hstep, hwrites, Or.inr (Or.inr (Or.inr hparty))⟩

/-- A caller that has a number and is owed its outcome or has it is not stuck. -/
theorem canGoOn_of_open (setup : Setup) (h : Manned s) {n : Nat} (hi : s.calls[i]? = some c)
    (hseq : c.seq = some n) (hopen : c.isOpen = true)
    (hsettled : c.slot.isSome = true ∨ ∃ p outcome, Act.settle i outcome ∈ s.duty p) :
    CanGoOn setup s i := by
  rcases hsettled with hslot | ⟨p, outcome, hduty⟩
  · cases hstage : c.stage with
    | registered =>
      refine ⟨.frame i, ?_, rfl, Or.inl rfl⟩
      show (s.frame i).isSome = true
      rw [State.frame, hi]
      simp only [hstage, hseq]
      split <;> rfl
    | queueing frame =>
      by_cases hroom : s.outbox.isOpen = true ∧ outboxCapacity ≤ s.outbox.items.length
      · -- there is no room, but the writer can make some
        have hitems : s.outbox.items ≠ [] := by
          intro hnil
          have hfull := hroom.2
          rw [hnil, outboxCapacity] at hfull
          cases hfull
        obtain ⟨label, hparty, hwrites, hstep⟩ := canWrite_of_open setup h hroom.1 hitems
        exact ⟨label, hstep, hwrites, Or.inr (Or.inr (Or.inr ⟨_, hparty⟩))⟩
      · refine ⟨.submit i, ?_, rfl, Or.inr (Or.inl rfl)⟩
        show (s.submit i).isSome = true
        rw [State.submit, hi]
        simp only [hstage, hseq]
        split
        · next hopen =>
          have hlt : s.outbox.items.length < outboxCapacity :=
            Nat.lt_of_not_le fun hle => hroom ⟨hopen, hle⟩
          rw [State.enqueue, if_pos hlt]
          rfl
        · rfl
    | waiting =>
      obtain ⟨outcome, hsome⟩ := Option.isSome_iff_exists.mp hslot
      refine ⟨.collect i, ?_, rfl, Or.inr (Or.inr (Or.inl rfl))⟩
      show (s.collect i).isSome = true
      rw [State.collect, hi]
      simp only [hstage, hsome]
      rfl
    | failed _ => simp [Call.isOpen, hstage] at hopen
    | finished _ => simp [Call.isOpen, hstage] at hopen
    | abandoned => simp [Call.isOpen, hstage] at hopen
  · exact canGoOn_of_duty setup hduty i

/-! ## Runs -/

/-- Who hands something over has a frame, and is turned away if the outbox is closed. -/
theorem queueing_of_submit (h : step setup s (.submit i) = some (s', shown)) :
    ∃ c frame, s.calls[i]? = some c ∧ c.stage = .queueing frame ∧
      (s.outbox.isOpen = false → ∃ c', s'.calls[i]? = some c' ∧ c'.stage = .failed .closed) := by
  cases move_of_step h with
  | submitted _ c _ frame hi hstage _ hopen _ =>
    refine ⟨c, frame, hi, hstage, fun hclosed => ?_⟩
    rw [hopen] at hclosed
    cases hclosed
  | notSubmitted _ c _ frame hi hstage _ _ =>
    refine ⟨c, frame, hi, hstage, fun _ => ⟨{ c with stage := .failed .closed }, ?_, rfl⟩⟩
    show ((s.forget c).calls.modify i _)[i]? = _
    rw [calls_forget, List.getElem?_modify_eq, hi]
    rfl

/-- A caller that has let go of its frame keeps having done so. -/
theorem letGo_of_run (h : Run (step setup) s late t) (hi : s.calls[i]? = some c)
    (hletGo : c.stage.hasLetGo = true) :
    ∃ c', t.calls[i]? = some c' ∧ c'.stage.hasLetGo = true := by
  induction h with
  | start => exact ⟨c, hi, hletGo⟩
  | snoc _ hstep ih =>
    obtain ⟨d, hd, hdletGo⟩ := ih
    obtain ⟨d', hd', hkept, _⟩ := (pace_of_move (move_of_step hstep)).call_after hd
    exact ⟨d', hd', hkept hdletGo⟩

/-- So it hands nothing over any more. -/
theorem not_submitted_of_run (h : Run (step setup) s late t) (hi : s.calls[i]? = some c)
    (hletGo : c.stage.hasLetGo = true) : ∀ n ∈ late, n.label ≠ .submit i := by
  intro n hn hlabel
  obtain ⟨before, rest, rfl⟩ := List.append_of_mem hn
  obtain ⟨hbefore, hstep⟩ := h.split
  obtain ⟨d, hd, hdletGo⟩ := letGo_of_run hbefore hi hletGo
  rw [hlabel] at hstep
  obtain ⟨d', frame, hd', hstage, _⟩ := queueing_of_submit hstep
  cases hd.symm.trans hd'
  rw [hstage] at hdletGo
  cases hdletGo

/-- A caller that comes after the writer has left is turned away for good. -/
theorem turnedAway_of_submit (h : Run (step setup) start past s) {n : Moment State Label Effect}
    (hn : n ∈ past) (hlabel : n.label = .submit i) (hended : n.before.writer.phase = .ended) :
    ∃ c, s.calls[i]? = some c ∧ c.stage = .failed .closed := by
  obtain ⟨before, rest, rfl⟩ := List.append_of_mem hn
  obtain ⟨hbefore, hstep⟩ := h.split
  rw [hlabel] at hstep
  obtain ⟨_, _, _, _, hturned⟩ := queueing_of_submit hstep
  obtain ⟨c, hc, hstage⟩ := hturned ((manned_of_run hbefore).ended_iff.mp hended)
  obtain ⟨c', hc', hstage'⟩ := stage_of_run h.after hc (by rw [Call.isOpen, hstage])
  exact ⟨c', hc', hstage'.trans hstage⟩

/-- An open call that was drained has the loss in its slot, or is owed it. -/
theorem settled_of_drained (hs : Slots past s) (hi : s.calls[i]? = some c) (hopen : c.isOpen = true)
    (h : received past i = [lost cause] ∧ (c.slot = some (lost cause) ∨ c.IsGone) ∨
      received past i = [] ∧ ∃ p, Act.settle i (lost cause) ∈ s.duty p) :
    c.slot = some (lost cause) ∨
      c.slot = none ∧ ∃ p, Act.settle i (lost cause) ∈ s.duty p := by
  rcases h with ⟨hreceived, _⟩ | ⟨hreceived, hduty⟩
  · refine Or.inl (hs.ofReceived hi hopen ?_)
    rw [hreceived]
    exact List.mem_singleton_self _
  · refine Or.inr ⟨?_, hduty⟩
    cases hslot : c.slot with
    | none => rfl
    | some outcome =>
      have hin := hs.ofSlot hi hslot
      rw [hreceived] at hin
      cases hin

/-- **When the connection fails, every call on the table is lost**, and its caller is told so with
the text of the failure, unless it gives up, has no frame, or comes after the writer has left. -/
theorem losses_of_run (h : Run (step setup) start (early ++ m :: late) s)
    (hnone : ∀ n ∈ early, n.before.ending setup n.label = none)
    (hending : m.before.ending setup m.label = some (.failed cause)) :
    Losses setup early m late s cause := by
  obtain ⟨hearly, hstep⟩ := h.split
  have hbefore := ledger_of_run hearly
  have hends := ends_of_step hbefore.regular hstep hending
  have hdrained := (concluded_of_run h hnone hending).drained
  have hslots := (ledger_of_run h).slots
  have hattended := attended_of_run hearly
  have hwriter : ∀ n ∈ late, n.before.outbox.isOpen = false ↔ n.before.writer.phase = .ended := by
    intro n hn
    obtain ⟨before, rest, rfl⟩ := List.append_of_mem hn
    rw [← List.cons_append, ← List.append_assoc] at h
    exact (manned_of_run h.split.1).ended_iff.symm
  have hnever : ∀ entry ∈ m.before.pending.entries,
      ∀ outcome ∈ received (early ++ m :: late) entry.call, outcome = lost cause := by
    intro entry hentry outcome houtcome
    obtain ⟨_, _, _, ⟨hreceived, _⟩ | ⟨hreceived, _⟩⟩ := hdrained entry hentry
    · rw [hreceived] at houtcome
      exact List.mem_singleton.mp houtcome
    · rw [hreceived] at houtcome
      cases houtcome
  -- where its caller is, and how it came there
  have hparting : ∀ entry ∈ m.before.pending.entries, ∃ c, s.calls[entry.call]? = some c ∧
      c.seq = some entry.seq ∧ Parting late entry.call c ∧
      (c.isOpen = true → c.slot = some (lost cause) ∨
        c.slot = none ∧ ∃ p, Act.settle entry.call (lost cause) ∈ s.duty p) := by
    intro entry hentry
    obtain ⟨c₀, hc₀, hopen⟩ := hattended entry hentry
    obtain ⟨c, hc, _, hparting⟩ := parting_of_run h.after (hends.calls ▸ hc₀) hopen
    obtain ⟨d, hd, hseq, hdone⟩ := hdrained entry hentry
    cases hc.symm.trans hd
    exact ⟨c, hc, hseq, hparting, fun hopen => settled_of_drained hslots hc hopen hdone⟩
  refine ⟨?_, ?_, hnever, ?_, ?_, ?_⟩
  · intro entry hentry
    exact ⟨(List.append_eq_nil_iff.mp (hbefore.tokens.decided_of_mem_waiting
      (mem_waiting.mpr ⟨hentry, rfl⟩))).1, hattended entry hentry⟩
  · intro entry hentry
    obtain ⟨c, hc, hseq, hparting, hsettled⟩ := hparting entry hentry
    refine ⟨c, hc, hseq, ?_⟩
    cases hparting with
    | staying hopen =>
      rcases hsettled hopen with hslot | ⟨hslot, p, hduty⟩
      · exact .settled hopen hslot
      · exact .owed p hopen hslot hduty
    | finished outcome hstage =>
      have hin := hslots.ofSlot hc (hslots.ofFinished hc hstage)
      exact .told (hnever entry hentry outcome hin ▸ hstage)
    | unframed reason hstage hencode => exact .unframed reason hstage hencode
    | turnedAway n hstage hn hlabel hclosed =>
      exact .turnedAway n hstage hn hlabel ((hwriter n hn).mp hclosed)
    | abandoned n hstage hn hlabel => exact .abandoned n hstage hn hlabel
  · intro entry hentry
    constructor
    · rintro ⟨c, hc, hstage⟩
      obtain ⟨d, hd, _, hparting, _⟩ := hparting entry hentry
      cases hc.symm.trans hd
      cases hparting with
      | staying hopen => simp [Call.isOpen, hstage] at hopen
      | finished outcome hfinished => cases hstage.symm.trans hfinished
      | unframed reason hfailed _ => cases hstage.symm.trans hfailed
      | turnedAway n _ hn hlabel hclosed => exact ⟨n, hn, hlabel, (hwriter n hn).mp hclosed⟩
      | abandoned n hgone _ _ => cases hstage.symm.trans hgone
    · rintro ⟨n, hn, hlabel, hended⟩
      exact turnedAway_of_submit h
        (List.mem_append_right _ (List.mem_cons_of_mem _ hn)) hlabel hended
  · intro entry _ c hc hstage
    exact not_submitted_of_run h.after (hends.calls ▸ hc) (by rw [hstage]; rfl)
  · intro entry hentry c hc hopen
    obtain ⟨d, hd, hseq, _, hsettled⟩ := hparting entry hentry
    cases hc.symm.trans hd
    refine canGoOn_of_open setup (manned_of_run h) hc hseq hopen ?_
    rcases hsettled hopen with hslot | ⟨_, p, hduty⟩
    · rw [hslot]
      exact Or.inl rfl
    · exact Or.inr ⟨p, _, hduty⟩

/-- Writing fails while the first caller waits for its response, the second for room in the outbox,
and the third has only registered its call.  The first two are told; the third hands its frame over
when the writer has left. -/
def lossesLabels : List Label :=
  [.call "A.B" [1] true, .frame 0, .submit 0, .dequeue, .call "A.C" [] true, .frame 1,
    .call "A.D" [] true, .failWrite .brokenPipe, .writerAct, .submit 1, .writerAct, .writerAct,
    .collect 0, .collect 1, .writerAct, .endOutput, .retire, .frame 2, .submit 2]

theorem losses_in_all_stages : ∃ early m late s,
    Run (step ⟨"peer", 100⟩) start (early ++ m :: late) s ∧
      (∀ n ∈ early, n.before.ending ⟨"peer", 100⟩ n.label = none) ∧
      m.before.ending ⟨"peer", 100⟩ m.label = some (.failed .brokenPipe) ∧
      m.before.pending.entries = [⟨0, 0⟩, ⟨1, 1⟩, ⟨2, 2⟩] ∧
      s.calls.map Call.stage
        = [.finished (lost .brokenPipe), .finished (lost .brokenPipe), .failed .closed] ∧
      Losses ⟨"peer", 100⟩ early m late s .brokenPipe := by
  -- the eighth moment is the one at which writing fails
  have hruns : (replay (step ⟨"peer", 100⟩) start lossesLabels).any (fun r =>
      (∀ n ∈ r.1.take 7, n.before.ending ⟨"peer", 100⟩ n.label = none) ∧
      (∃ m ∈ (r.1.drop 7).head?, m.before.ending ⟨"peer", 100⟩ m.label
        = some (.failed .brokenPipe) ∧
        m.before.pending.entries = [⟨0, 0⟩, ⟨1, 1⟩, ⟨2, 2⟩]) ∧
      r.2.calls.map Call.stage
        = [.finished (lost .brokenPipe), .finished (lost .brokenPipe), .failed .closed]) = true := by
    decide +kernel
  obtain ⟨⟨past, s⟩, hreplay, hfacts⟩ := (Option.any_eq_true _ _).mp hruns
  obtain ⟨hnone, ⟨m, hm, hending, hentries⟩, hstages⟩ := of_decide_eq_true hfacts
  have hrun := Run.of_replay hreplay
  obtain ⟨late, hdrop⟩ := List.head?_eq_some_iff.mp hm
  rw [← List.take_append_drop 7 past, hdrop] at hrun
  exact ⟨past.take 7, m, late, s, hrun, hnone, hending, hentries, hstages,
    losses_of_run hrun hnone hending⟩

/-- A caller waits for room in the outbox when writing fails, and hands its frame over when the writer
has left. -/
def turnedAwayLabels : List Label :=
  [.call "A.B" [1] true, .frame 0, .submit 0, .dequeue, .call "A.C" [] true, .frame 1,
    .failWrite .brokenPipe, .writerAct, .writerAct, .writerAct, .endOutput, .retire, .submit 1]

/-- **A lost call can be reported as closed**, although nobody closed the client, the request was
encoded and the caller did not give up: the loss is in its slot, and it does not look there. -/
theorem exists_turnedAway : ∃ early m late s c,
    Run (step ⟨"peer", 100⟩) start (early ++ m :: late) s ∧
      (∀ n ∈ early, n.before.ending ⟨"peer", 100⟩ n.label = none) ∧
      m.before.ending ⟨"peer", 100⟩ m.label = some (.failed .brokenPipe) ∧
      ⟨1, 1⟩ ∈ m.before.pending.entries ∧ s.calls[1]? = some c ∧
      (∀ n ∈ early ++ m :: late, n.label ≠ .close ∧ n.label ≠ .abandon 1) ∧
      (∀ reason, ¬ c.FailsToEncode reason) ∧
      c.slot = some (lost .brokenPipe) ∧ c.stage = .failed .closed := by
  -- the seventh moment is the one at which writing fails
  have hruns : (replay (step ⟨"peer", 100⟩) start turnedAwayLabels).any (fun r =>
      (∀ n ∈ r.1.take 6, n.before.ending ⟨"peer", 100⟩ n.label = none) ∧
      (∃ m ∈ (r.1.drop 6).head?, m.before.ending ⟨"peer", 100⟩ m.label
        = some (.failed .brokenPipe) ∧ ⟨1, 1⟩ ∈ m.before.pending.entries) ∧
      (∀ n ∈ r.1, n.label ≠ .close ∧ n.label ≠ .abandon 1) ∧
      r.2.calls[1]?
        = some ⟨"A.C", [], true, some 1, .failed .closed, some (lost .brokenPipe)⟩) = true := by
    decide +kernel
  have hencodes : (Envelope.encode (.request "A.C" (UInt64.ofNat 1)) []).toOption.isSome = true := by
    decide +kernel
  obtain ⟨⟨past, s⟩, hreplay, hfacts⟩ := (Option.any_eq_true _ _).mp hruns
  obtain ⟨hnone, ⟨m, hm, hending, hentry⟩, hlabels, hcall⟩ := of_decide_eq_true hfacts
  have hrun := Run.of_replay hreplay
  obtain ⟨late, hdrop⟩ := List.head?_eq_some_iff.mp hm
  rw [← List.take_append_drop 6 past, hdrop] at hrun hlabels
  refine ⟨past.take 6, m, late, s, _, hrun, hnone, hending, hentry, hcall, hlabels, ?_, rfl, rfl⟩
  rintro reason ⟨seq, hseq, hencode⟩
  cases hseq
  rw [hencode] at hencodes
  cases hencodes

end RemoteCall.Client
