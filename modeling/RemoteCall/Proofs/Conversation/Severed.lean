import RemoteCall.Proofs.Client.Outflow
import RemoteCall.Proofs.Server.Responses
import RemoteCall.Proofs.Server.Sends

/-!
# When writing fails

A write may fail after any number of bytes, and then a part of a frame stands on the wire that will
never be completed.  Whatever is written behind it cannot be read any more.

A client takes a failed write for the end of its stream: it writes nothing more, so that what it has
written are whole frames and at most a part of one more (`Client.EndsAtFailure`).

A server's connection does not.  The task whose write has failed reports that and goes, and the next
one finds the writer as if nothing had happened.  So pieces of frames may follow one another
(`Connection.SendsPieces`): what was written is well formed exactly as long as nothing goes out
behind a frame that broke off, which is left to chance.  `exists_behind_failure` is a run in which a
timeout cuts off a response, and the next response goes out behind its first bytes, for which a
reader takes it.
-/

namespace RemoteCall.Client

variable {setup : Setup} {s s' : State} {past : List (Moment State Label Effect)} {limit : Nat}
  {put taken : List Item} {bytes : Bytes}

/-- What a client writes, if writing may fail. -/
structure EndsAtFailure (setup : Setup) (past : List (Moment State Label Effect)) : Prop where
  /-- What was written are whole frames and then at most a part of one more: the frames of what was
  taken out of the outbox and is within the limit. -/
  cutShort : Frame.IsCutShort
    ((bodiesWithin setup.frameLimit (fetched past)).map Frame.encode) (written past)
  /-- Once writing has failed, nothing more is taken out or written. -/
  silent : ∀ early m late, past = early ++ m :: late → m.label.failsToWrite = true →
    fetched late = [] ∧ written late = [] ∧ WritesSucceed late

/-- The writer is at the frame of what it took out last. -/
def AtLast (limit : Nat) (taken : List Item) (s : State) : Prop :=
  ∀ left, s.writer.phase = .writing left → ∃ front body part,
    bodiesWithin limit taken = front ++ [body] ∧ Frame.encode body = part ++ left

theorem AtLast.haul {ins outs : List Item} {more : Bytes} (h : AtLast limit taken s)
    (hhaul : Haul limit s s' ins outs more) : AtLast limit (taken ++ outs) s' := by
  cases hhaul with
  | aside _ hphase =>
    rw [List.append_nil]
    exact fun left hleft => h left (hphase.symm.trans hleft)
  | handedOver _ _ _ _ _ _ _ _ _ hphase _ =>
    rw [List.append_nil]
    exact fun left hleft => h left (hphase.symm.trans hleft)
  | askedToClose _ _ _ _ _ _ hphase =>
    rw [List.append_nil]
    exact fun left hleft => h left (hphase.symm.trans hleft)
  | began n body _ _ _ hle hphase =>
    intro left hleft
    cases hphase.symm.trans hleft
    refine ⟨bodiesWithin limit taken, body, [], ?_, rfl⟩
    rw [bodiesWithin_append, bodiesWithin_of_le hle]
  | refused _ _ _ _ _ _ hphase => exact fun left hleft => by cases hphase.symm.trans hleft
  | toldToClose _ _ _ hphase => exact fun left hleft => by cases hphase.symm.trans hleft
  | leftAlone _ _ _ _ hphase => exact fun left hleft => by cases hphase.symm.trans hleft
  | wrote _ rest hwriting _ _ hphase =>
    intro left hleft
    cases hphase.symm.trans hleft
    obtain ⟨front, body, part, htaken, hbody⟩ := h _ hwriting
    refine ⟨front, body, part ++ more, ?_, ?_⟩
    · rw [List.append_nil]
      exact htaken
    · rw [hbody, List.append_assoc]
  | wroteLast _ _ _ hphase => exact fun left hleft => by cases hphase.symm.trans hleft
  | outputEnded _ _ hphase => exact fun left hleft => by cases hphase.symm.trans hleft
  | retired _ _ hphase => exact fun left hleft => by cases hphase.symm.trans hleft

theorem atLast_of_run (h : Run (step setup) start past s) (hwrites : WritesSucceed past) :
    AtLast setup.frameLimit (fetched past) s := by
  induction h with
  | start => exact fun left hleft => by cases hleft
  | snoc _ hstep ih =>
    rw [fetched_append, fetched_singleton]
    exact (ih hwrites.of_append.1).haul (haul_of_move (move_of_step hstep) hwrites.last)

/-- As long as writing does not fail, only the last frame can be incomplete. -/
theorem Outflow.cutShort (h : Outflow limit put taken bytes s) (hlast : AtLast limit taken s) :
    Frame.IsCutShort ((bodiesWithin limit taken).map Frame.encode) bytes := by
  have hstream := h.bytes
  rw [Frame.stream, List.flatMap_def] at hstream
  cases hphase : s.writer.phase with
  | writing left =>
    obtain ⟨front, body, part, htaken, hbody⟩ := hlast left hphase
    have hleft : left ≠ [] := by
      have hsound := h.sound
      rw [hphase] at hsound
      exact hsound
    rw [State.unwritten, hphase, htaken, List.map_append, List.flatten_append, List.map_singleton,
      List.flatten_singleton, hbody, ← List.append_assoc] at hstream
    rw [htaken, List.map_append, List.map_singleton, hbody, List.append_cancel_right hstream]
    exact .cut _ part left hleft
  | _ =>
    rw [State.unwritten, hphase, List.append_nil] at hstream
    rw [hstream]
    exact .whole _

/-- Either writing never failed, or there is a first time that it did. -/
theorem writesSucceed_or_failed (past : List (Moment State Label Effect)) :
    WritesSucceed past ∨ ∃ early m late, past = early ++ m :: late ∧ WritesSucceed early ∧
      m.label.failsToWrite = true := by
  induction past with
  | nil => exact Or.inl fun _ hm => by cases hm
  | cons n past ih =>
    cases hn : n.label.failsToWrite with
    | true => exact Or.inr ⟨[], n, past, rfl, fun _ hm => (by cases hm), hn⟩
    | false =>
      have hcons : ∀ {l : List (Moment State Label Effect)}, WritesSucceed l →
          WritesSucceed (n :: l) := by
        intro l hl m hm
        rcases List.mem_cons.mp hm with rfl | hm
        · exact hn
        · exact hl m hm
      rcases ih with hall | ⟨early, m, late, rfl, hearly, hm⟩
      · exact Or.inl (hcons hall)
      · exact Or.inr ⟨n :: early, m, late, rfl, hcons hearly, hm⟩

/-- Where writing fails, the writer stops, and no byte goes out from then on. -/
theorem silent_after_failure {early late : List (Moment State Label Effect)}
    {m : Moment State Label Effect} (h : Run (step setup) start (early ++ m :: late) s)
    (hm : m.label.failsToWrite = true) : fetching m = [] ∧ output m.shown = [] ∧
      WritesSucceed late ∧ fetched late = [] ∧ written late = [] := by
  obtain ⟨left, _, hclosing, hshown⟩ := writing_of_failsToWrite (move_of_step h.split.2) hm
  obtain ⟨hsucceeds, hfetched, hwritten, _⟩ := silent_of_run h.after (by rw [hclosing]; rfl)
  refine ⟨?_, by rw [hshown]; rfl, hsucceeds, hfetched, hwritten⟩
  rw [fetching]
  split
  · next hlabel =>
    rw [hlabel] at hm
    cases hm
  · rfl

/-- **A client's stream ends where writing fails.** -/
theorem endsAtFailure_of_run (h : Run (step setup) start past s) : EndsAtFailure setup past := by
  constructor
  · rcases writesSucceed_or_failed past with hwrites | ⟨early, m, late, rfl, hearly, hm⟩
    · exact (outflow_of_run h hwrites).cutShort (atLast_of_run h hwrites)
    · -- what was fetched and written is what it was before the failure
      obtain ⟨hfetching, hout, _, hfetched, hwritten⟩ := silent_after_failure h hm
      have hrun := h.split.1
      rw [← List.singleton_append, fetched_append, written_append, fetched_append, written_append,
        fetched_singleton, written_singleton, hfetching, hout, hfetched, hwritten, List.append_nil,
        List.append_nil, List.append_nil, List.append_nil (written early)]
      exact (outflow_of_run hrun hearly).cutShort (atLast_of_run hrun hearly)
  · rintro early m late rfl hm
    obtain ⟨_, _, hsucceeds, hfetched, hwritten⟩ := silent_after_failure h hm
    exact ⟨hfetched, hwritten, hsucceeds⟩

end RemoteCall.Client

namespace RemoteCall.Connection

variable {setup : Setup} {s : State} {past : List (Moment State Label Effect)} {permits : Nat}

/-- What a connection writes, if writing may fail. -/
structure SendsPieces (setup : Setup) (past : List (Moment State Label Effect)) (s : State) :
    Prop where
  /-- What was written are frames or pieces of frames, one behind the other. -/
  written : (record setup past).written = (sends past).flatMap Send.sent
  /-- Each is a response to a request that was read, and none has two. -/
  answers : ∀ x ∈ sends past, ∃ t, s.tasks[x.task]? = some t ∧
    setup.outcome t.request = .ok x.frame
  once : ((sends past).map Send.task).Nodup
  /-- It is out as a whole, or writing failed after its first bytes, or it is under way and the last
  of them. -/
  pieces : ∀ x ∈ sends past, x.IsOver ∨ x.failure = none ∧ (sends past).getLast? = some x ∧
    ∃ left, left ≠ [] ∧ x.frame = x.sent ++ left ∧ s.writing = some (x.task, left)
  /-- A task whose write has failed says so, or will. -/
  told : ∀ x ∈ sends past, ∀ t cause, s.tasks[x.task]? = some t → x.failure = some cause →
    t.stage = .settled (some cause) ∨ t.stage = .reported (some cause)
  /-- If that was the answer to an unknown target, the connection reads nothing more. -/
  stops : ∀ x ∈ sends past, ∀ t cause, s.tasks[x.task]? = some t → t.handler = none →
    x.failure = some cause → s.phase = .busy x.task ∨ s.phase.hasFailed = true
  /-- What was written are whole frames and then at most a part of one more, as long as nothing went
  out behind a frame of which only a part went out. -/
  cutShort : (∀ front x back, sends past = front ++ x :: back → x.sent ≠ [] → x.sent ≠ x.frame →
      ∀ y ∈ back, y.sent = []) →
    Frame.IsCutShort (((sends past).filter fun x => !x.sent.isEmpty).map Send.frame)
      (record setup past).written

/-- Pieces of which only the last one is not whole. -/
theorem isCutShort_of_pieces {all : List Send} (hpieces : ∀ x ∈ all, x.sent <+: x.frame)
    (hbehind : ∀ front x back, all = front ++ x :: back → x.sent ≠ [] → x.sent ≠ x.frame →
      ∀ y ∈ back, y.sent = []) :
    Frame.IsCutShort ((all.filter fun x => !x.sent.isEmpty).map Send.frame)
      (all.flatMap Send.sent) := by
  induction all with
  | nil => exact .whole []
  | cons x all ih =>
    have hrest := ih (fun y hy => hpieces y (List.mem_cons_of_mem x hy))
      fun front y back heq => hbehind (x :: front) y back (by rw [heq]; rfl)
    rw [List.flatMap_cons]
    by_cases hnone : x.sent = []
    · rw [List.filter_cons_of_neg (by simp [hnone]), hnone]
      exact hrest
    · rw [List.filter_cons_of_pos (by simp [hnone]), List.map_cons]
      by_cases hwhole : x.sent = x.frame
      · rw [hwhole]
        exact hrest.cons x.frame
      · -- nothing went out behind it
        have hsilent := hbehind [] x all rfl hnone hwhole
        have hfilter : all.filter (fun y => !y.sent.isEmpty) = [] :=
          List.filter_eq_nil_iff.mpr fun y hy => by simp [hsilent y hy]
        obtain ⟨rest, hframe⟩ := hpieces x List.mem_cons_self
        rw [hfilter, List.flatMap_eq_nil_iff.mpr hsilent, List.append_nil, ← hframe]
        refine .cut [] x.sent rest ?_
        rintro rfl
        rw [List.append_nil] at hframe
        exact hwhole hframe

theorem Current.pieces {all : List Send} {writing : Option (Nat × Bytes)}
    (h : Current all writing) : ∀ x ∈ all, x.IsOver ∨ x.failure = none ∧ all.getLast? = some x ∧
      ∃ left, left ≠ [] ∧ x.frame = x.sent ++ left ∧ writing = some (x.task, left) := by
  cases h with
  | free hover => exact fun x hx => Or.inl (hover x hx)
  | busy i part left hover hne =>
    intro x hx
    rcases List.mem_append.mp hx with hx | hx
    · exact Or.inl (hover x hx)
    · cases List.mem_singleton.mp hx
      exact Or.inr ⟨rfl, List.getLast?_concat, left, hne, rfl, rfl⟩

theorem Send.IsOver.isPrefix {x : Send} (h : x.IsOver) : x.sent <+: x.frame := by
  cases h with
  | whole => exact List.prefix_rfl
  | broken _ part rest _ _ => exact List.prefix_append part rest

/-- A send that has failed is over, so the writer is not at it. -/
theorem Current.task_ne {all : List Send} {i : Nat} {left : Bytes} {x : Send} {cause : LinkError}
    (h : Current all (some (i, left))) (honce : (all.map Send.task).Nodup) (hx : x ∈ all)
    (hcause : x.failure = some cause) : x.task ≠ i := by
  obtain ⟨earlier, part, rfl, _, _⟩ := h.of_writing
  rw [List.map_append, List.map_singleton, ← List.concat_eq_append, List.nodup_concat] at honce
  rintro rfl
  rcases List.mem_append.mp hx with hx | hx
  · exact honce.1 (List.mem_map.mpr ⟨x, hx, rfl⟩)
  · rw [List.mem_singleton.mp hx] at hcause
    cases hcause

theorem Stage.of_result {stage : Stage} {failure : Option LinkError}
    (h : stage.result? = some failure) : stage = .settled failure ∨ stage = .reported failure := by
  cases stage with
  | settled _ =>
    cases h
    exact Or.inl rfl
  | reported _ =>
    cases h
    exact Or.inr rfl
  | _ => cases h

/-- A task whose write has failed says so, or will. -/
theorem Sending.told {all : List Send} {written : Bytes} {x : Send} {t : Task} {cause : LinkError}
    (h : Sending setup all written s) (hw : WritingFits s.tasks s.writing) (hx : x ∈ all)
    (ht : s.tasks[x.task]? = some t) (hcause : x.failure = some cause) :
    t.stage = .settled (some cause) ∨ t.stage = .reported (some cause) := by
  obtain ⟨u, hu, _, hstage⟩ := h.matched.of_send x hx
  cases ht.symm.trans hu
  rcases hstage with hstage | hresult
  · obtain ⟨left, hwriting⟩ := hw.2 x.task t ht hstage
    have hcurrent := h.current
    rw [hwriting] at hcurrent
    exact absurd rfl (hcurrent.task_ne h.once hx hcause)
  · exact Stage.of_result (hcause ▸ hresult)

/-- **What a connection writes are pieces of frames**, one for each answer, and a failed write does
not end it. -/
theorem sendsPieces_of_run (h : Run (step setup) (start permits) past s) :
    SendsPieces setup past s := by
  have hsending := sending_of_run h
  have hphased := phased_of_run h
  have hw := writing_of_run h
  have hpieces := hsending.current.pieces
  refine ⟨hsending.written, ?_, hsending.once, hpieces, ?_, ?_, ?_⟩
  · intro x hx
    obtain ⟨t, ht, hframe, _⟩ := hsending.matched.of_send x hx
    exact ⟨t, ht, hframe⟩
  · exact fun x hx t cause ht hcause => hsending.told hw hx ht hcause
  · intro x hx t cause ht hhandler hcause
    rcases hsending.told hw hx ht hcause with hstage | hstage
    · refine Or.inl (hphased.holds ht ?_)
      rw [Task.holdsReading, hhandler, hstage]
      rfl
    · exact Or.inr (hphased.failed ht hhandler hstage)
  · intro hbehind
    rw [hsending.written]
    refine isCutShort_of_pieces (fun x hx => ?_) hbehind
    rcases hpieces x hx with hover | ⟨_, _, left, _, hframe, _⟩
    · exact hover.isPrefix
    · exact hframe ▸ List.prefix_append _ _

/-- The response to a call of a method that panics, and one of 122 bytes. -/
def panicFrame : Bytes :=
  match ((sampleServing 150).connection "peer").outcome ⟨"A.C", 6, []⟩ with
  | .ok frame => frame
  | .error _ => []

def longFrame : Bytes :=
  match ((sampleServing 150).connection "peer").outcome ⟨"A.D", 8, []⟩ with
  | .ok frame => frame
  | .error _ => []

/-- Ten bytes of the first response are out when sending takes too long; then comes the second. -/
def timeoutLabels : List Label :=
  [.announce, .arrive (requestBytes "A.C" 6 [] ++ requestBytes "A.D" 8 []), .read, .acquire, .read,
    .acquire, .handle 0, .handle 1, .takeWriter 0, .write 10, .failWrite (.timeout .send),
    .takeWriter 1, .write 122]

/-- **A response can go out behind a part of another one.**  What is then on the wire are not whole
frames and a part of one more, and the first frame that a reader finds there is none that was
written: it cannot even be decoded. -/
theorem exists_behind_failure : ∃ early m late s,
    Run (step ((sampleServing 150).connection "peer")) (start 2) (early ++ m :: late) s ∧
      m.label = .failWrite (.timeout .send) ∧
      (record ((sampleServing 150).connection "peer") (early ++ m :: late)).frames
        = [(0, panicFrame), (1, longFrame)] ∧
      (record ((sampleServing 150).connection "peer") early).written = panicFrame.take 10 ∧
      (record ((sampleServing 150).connection "peer") late).written = longFrame ∧
      ¬ Frame.IsCutShort [panicFrame, longFrame]
        (record ((sampleServing 150).connection "peer") (early ++ m :: late)).written ∧
      ∃ body rest cause, Frame.scan 150
          (record ((sampleServing 150).connection "peer") (early ++ m :: late)).written
            = .frame body rest ∧
        Envelope.decode body = .error cause := by
  -- the eleventh moment is the one at which writing fails
  have hruns : (replay (step ((sampleServing 150).connection "peer")) (start 2) timeoutLabels).any
      (fun r => (∃ m ∈ (r.1.drop 10).head?, m.label = .failWrite (.timeout .send)) ∧
        (record ((sampleServing 150).connection "peer") r.1).frames
          = [(0, panicFrame), (1, longFrame)] ∧
        (record ((sampleServing 150).connection "peer") (r.1.take 10)).written
          = panicFrame.take 10 ∧
        (record ((sampleServing 150).connection "peer") (r.1.drop 11)).written = longFrame ∧
        (record ((sampleServing 150).connection "peer") r.1).written
          = panicFrame.take 10 ++ longFrame) = true := by
    decide +kernel
  have hnot : ¬ (panicFrame.take 10 ++ longFrame) <+: [panicFrame, longFrame].flatten := by
    decide +kernel
  have hread : ∃ body rest cause, Frame.scan 150 (panicFrame.take 10 ++ longFrame)
      = .frame body rest ∧ Envelope.decode body = .error cause :=
    ⟨(panicFrame.take 10).drop 4 ++ longFrame.take 64, longFrame.drop 64,
      .frame (.badHeader .overLimit), by decide +kernel, by decide +kernel⟩
  obtain ⟨⟨past, s⟩, hreplay, hfacts⟩ := (Option.any_eq_true _ _).mp hruns
  obtain ⟨⟨m, hm, hlabel⟩, hframes, hearly, hlate, hwritten⟩ := of_decide_eq_true hfacts
  have hrun := Run.of_replay hreplay
  obtain ⟨late, hdrop⟩ := List.head?_eq_some_iff.mp hm
  have hrest : past.drop 11 = late := by
    rw [show 11 = 10 + 1 from rfl, ← List.drop_drop, hdrop]
    rfl
  have hpast : past = past.take 10 ++ m :: late := by rw [← hdrop, List.take_append_drop]
  rw [hpast] at hrun hframes hwritten
  rw [hrest] at hlate
  refine ⟨past.take 10, m, late, s, hrun, hlabel, hframes, hearly, hlate, ?_, ?_⟩
  · rw [hwritten]
    exact fun hcut => hnot hcut.isPrefix
  · rw [hwritten]
    exact hread

end RemoteCall.Connection

namespace RemoteCall.Conversation

/-- **What a failed write does to the stream**, in every run of a client and in every run of a
served connection: a client's stream ends there, and a server's goes on. -/
theorem severed_of_runs {client : Client.Setup} {server : Connection.Setup} {permits : Nat}
    {cpast : List (Moment Client.State Client.Label Client.Effect)} {c : Client.State}
    {past : List (Moment Connection.State Connection.Label Connection.Effect)}
    {s : Connection.State} (hclient : Run (Client.step client) Client.start cpast c)
    (hserver : Run (Connection.step server) (Connection.start permits) past s) :
    Client.EndsAtFailure client cpast ∧ Connection.SendsPieces server past s :=
  ⟨Client.endsAtFailure_of_run hclient, Connection.sendsPieces_of_run hserver⟩

/-- The first of two requests breaks off after five bytes. -/
def brokenLabels : List Client.Label :=
  [.call "A.B" [1] true, .frame 0, .submit 0, .call "A.C" [] true, .frame 1, .submit 1, .dequeue,
    .write 5, .failWrite .brokenPipe, .writerAct, .writerAct, .writerAct, .endOutput, .retire]

theorem severed_of_broken_runs : ∃ cpast c past s,
    Run (Client.step ⟨"peer", 100⟩) Client.start cpast c ∧
      (Client.written cpast).length = 5 ∧ c.writer.phase = .ended ∧
      Run (Connection.step ((Connection.sampleServing 150).connection "peer")) (Connection.start 2)
        past s ∧
      (Connection.sends past).map (fun x => (x.frame.length, x.sent.length))
        = [(74, 10), (122, 122)] ∧
      Client.EndsAtFailure ⟨"peer", 100⟩ cpast ∧
      Connection.SendsPieces ((Connection.sampleServing 150).connection "peer") past s := by
  have hclient : (replay (Client.step ⟨"peer", 100⟩) Client.start brokenLabels).any
      (fun r => (Client.written r.1).length = 5 ∧ r.2.writer.phase = .ended) = true := by
    decide +kernel
  have hserver : (replay (Connection.step ((Connection.sampleServing 150).connection "peer"))
      (Connection.start 2) Connection.timeoutLabels).any (fun r =>
        (Connection.sends r.1).map (fun x => (x.frame.length, x.sent.length))
          = [(74, 10), (122, 122)]) = true := by
    decide +kernel
  obtain ⟨⟨cpast, c⟩, hcreplay, hcfacts⟩ := (Option.any_eq_true _ _).mp hclient
  obtain ⟨⟨past, s⟩, hreplay, hfacts⟩ := (Option.any_eq_true _ _).mp hserver
  obtain ⟨hwritten, hended⟩ := of_decide_eq_true hcfacts
  have hcrun := Run.of_replay hcreplay
  have hrun := Run.of_replay hreplay
  obtain ⟨hends, hpieces⟩ := severed_of_runs hcrun hrun
  exact ⟨cpast, c, past, s, hcrun, hwritten, hended, hrun, of_decide_eq_true hfacts, hends, hpieces⟩

end RemoteCall.Conversation
