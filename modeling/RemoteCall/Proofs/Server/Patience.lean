import RemoteCall.Proofs.Server.Building
import RemoteCall.Proofs.Server.Clock

/-!
# How long a connection waits

A receive begins when the connection has accepted, or is done with the request that it read last, and
ends with a frame, with a failure, or with the shutdown.  With a timeout it is given up when the
timeout has passed since it began.  Bytes that arrive meanwhile do not put that off: what counts is
whether they have come to a whole frame in time.

So the timeout ends silent connections, but not only those.  A peer that is never silent for long
loses its connection all the same if a frame takes it longer than the timeout
(`exists_givenUp_while_sending`).  `patient_of_readTimeout` says exactly when a receive is given up,
and that nothing more is read then.
-/

namespace RemoteCall.Connection

namespace Timed

variable {setup : Setup} {timeout : Option Nat} {T : Nat} {s s' : State} {label : Label}
  {shown : List Effect} {past later : List (Moment State Label Effect)}

/-! ## Silence -/

/-- How long the peer has been silent while the connection waits for a frame, after another step. -/
def Label.silenceAfter (silence : Nat) : Label → Nat
  | .pass n => silence + n
  | .step (.arrive (_ :: _)) => 0
  | .step label => if label.beginsReading then 0 else silence
  | .giveUp => silence

/-- How long the peer has been silent: since the last byte has arrived, or since the connection began
to wait, whichever was later. -/
def silence (past : List (Moment State Label Effect)) : Nat :=
  past.foldl (fun silence m => m.label.silenceAfter silence) 0

theorem silenceAfter_step_le (silence : Nat) (label : Connection.Label) :
    (Label.step label).silenceAfter silence ≤ silence := by
  unfold Label.silenceAfter
  split
  · next h => cases h
  · exact Nat.zero_le silence
  · split
    · exact Nat.zero_le silence
    · exact Nat.le_refl silence
  · exact Nat.le_refl silence

theorem silenceAfter_of_begins (silence : Nat) {label : Connection.Label}
    (h : label.beginsReading = true) : (Label.step label).silenceAfter silence = 0 := by
  cases label with
  | announce | acquire | resume => rfl
  | _ => cases h

/-- A peer has not been silent for longer than the connection has waited. -/
theorem silence_le_of_run {c : Connection.State} {time : Nat}
    (h : Run (step setup (some T)) (start c time) past s)
    (hphase : s.connection.phase = .reading) : s.since + silence past ≤ s.time := by
  induction h with
  | start => exact Nat.le_refl time
  | @snoc past s s' label shown hrun hstep ih =>
    have hsilence : silence (past ++ [⟨s, label, s', shown⟩]) = label.silenceAfter (silence past) := by
      rw [silence, List.foldl_append]
      rfl
    rw [hsilence]
    cases move_of_step hstep with
    | went label c shown hstep' =>
      cases hbegins : label.beginsReading with
      | true =>
        rw [silenceAfter_of_begins _ hbegins]
        exact Nat.le_refl s.time
      | false =>
        have hle := silenceAfter_step_le (silence past) label
        have := ih (reading_of_step hstep' hphase hbegins)
        show s.since + _ ≤ s.time
        omega
    | gaveUp _ _ _ _ _ => cases hphase
    | passed n _ _ =>
      have := ih hphase
      show s.since + (silence past + n) ≤ s.time + n
      omega

/-! ## When a receive is given up -/

/-- A connection gives up a receive when its time is over and there is nothing to read. -/
structure GivesUp (setup : Setup) (T : Nat) (s s' : State) : Prop where
  phase : s.connection.phase = .reading
  time : s.time = s.since + T
  scan : Frame.scan setup.frameLimit s.connection.inbox = .short
  ended : s.connection.inputEnded = false
  stopped : s'.connection.phase.stopped? = some (some (.timeout .receive))

theorem givesUp_of_step (h : step setup (some T) s .giveUp = some (s', shown))
    (hs : s.IsBounded T) : GivesUp setup T s s' := by
  cases move_of_step h with
  | gaveUp T' hT hphase hread hdue =>
    cases hT
    obtain ⟨hscan, hended⟩ := (canRead_eq_false_iff hphase).mp hread
    have := hs.2 hphase
    exact ⟨hphase, by omega, hscan, hended, rfl⟩

/-- A connection that has stopped reading reads nothing more, and its failure stays. -/
structure StaysStopped (failure : Option LinkError) (s : State)
    (later : List (Moment State Label Effect)) (s' : State) : Prop where
  stopped : s'.connection.phase.stopped? = some failure
  labels : ∀ m ∈ later, m.label.endsReceive = false
  requests : s'.connection.tasks.map Task.request = s.connection.tasks.map Task.request
  inbox : s.connection.inbox <+: s'.connection.inbox

theorem staysStopped_of_run {failure : Option LinkError}
    (hstopped : s.connection.phase.stopped? = some failure)
    (h : Run (step setup timeout) s later s') : StaysStopped failure s later s' := by
  induction h with
  | start => exact ⟨hstopped, by simp, rfl, List.prefix_rfl⟩
  | @snoc later s' s'' label shown hrun hstep ih =>
    have hreading : s'.connection.phase ≠ .reading := by
      intro hphase
      have := ih.stopped
      rw [hphase] at this
      cases this
    have hlabels : label.endsReceive = false →
        ∀ m ∈ later ++ [(⟨s', label, s'', shown⟩ : Moment State Label Effect)],
          m.label.endsReceive = false := by
      intro hlabel m hm
      rcases List.mem_append.mp hm with hm | hm
      · exact ih.labels m hm
      · cases List.mem_singleton.mp hm
        exact hlabel
    cases move_of_step hstep with
    | went label c shown hstep' =>
      cases reception_of_step hstep' with
      | waits hphase _ _ _ _ => exact absurd hphase hreading
      | ends hphase _ _ => exact absurd hphase hreading
      | absent _ hlabel hinbox hrequests _ hstays =>
        exact ⟨hstays failure ih.stopped, hlabels hlabel, hrequests.trans ih.requests,
          ih.inbox.trans hinbox⟩
    | gaveUp _ _ hphase _ _ => exact absurd hphase hreading
    | passed n _ _ => exact ⟨ih.stopped, hlabels rfl, ih.requests, ih.inbox⟩

/-- How a wait ends that nothing interrupts. -/
inductive Outcome (setup : Setup) (T : Nat) (s : State)
    (early : List (Moment State Label Effect)) (m : Moment State Label Effect) : Prop
  /-- In time there was a whole frame, or one over the limit, or the end of the stream. -/
  | read : m.label = .step .read → m.before.time ≤ s.since + T →
      (Frame.scan setup.frameLimit (s.connection.inbox ++ arrivals early) ≠ .short ∨
        s.connection.inputEnded = true ∨ ∃ n ∈ early, n.label.endsInput = true) →
      Outcome setup T s early m
  /-- What has come until the deadline is no whole frame. -/
  | givenUp : m.label = .giveUp → m.before.time = s.since + T →
      Frame.scan setup.frameLimit (s.connection.inbox ++ arrivals early) = .short →
      s.connection.inputEnded = false → (∀ n ∈ early, n.label.endsInput = false) →
      Outcome setup T s early m

theorem outcome_of_ends {c : Connection.State} {time : Nat}
    {early late : List (Moment State Label Effect)} {m : Moment State Label Effect}
    (hpast : Run (step setup (some T)) (start c time) past s)
    (h : Run (Timed.step setup (some T)) s (early ++ m :: late) s')
    (hw : StillWaits s early m.before) (hends : m.label.endsReceive = true)
    (hquiet : m.label.interrupts = false) : Outcome setup T s early m := by
  obtain ⟨hearly, hstep⟩ := h.split
  have hbounded := isBounded_of_run (hpast.append hearly)
  rcases Label.endsReceive_cases hends with hlabel | hlabel | hlabel
  · rw [hlabel] at hstep
    have hgives := givesUp_of_step hstep hbounded
    have htime := hgives.time
    have hscan := hgives.scan
    have hended := hgives.ended
    rw [hw.since] at htime
    rw [hw.inbox] at hscan
    rw [hw.ended, Bool.or_eq_false_iff, List.any_eq_false] at hended
    refine .givenUp hlabel htime hscan hended.1 fun n hn => ?_
    simpa using hended.2 n hn
  · refine .read hlabel (hw.since ▸ hbounded.2 hw.phase) ?_
    by_cases hscan : Frame.scan setup.frameLimit m.before.connection.inbox = .short
    · refine Or.inr ?_
      -- with no frame there, only the end of the stream can be read
      have hended : m.before.connection.inputEnded ≠ false := by
        intro hended
        have hread := (canRead_eq_false_iff hw.phase).mpr ⟨hscan, hended⟩
        rw [hlabel] at hstep
        rw [canRead_of_step hstep] at hread
        cases hread
      rw [hw.ended, ne_eq, Bool.not_eq_false, Bool.or_eq_true, List.any_eq_true] at hended
      exact hended
    · rw [hw.inbox] at hscan
      exact Or.inl hscan
  · rw [hlabel] at hquiet
    cases hquiet

/-- How long a connection waits whose timeout is `T`. -/
structure Patient (setup : Setup) (T : Nat) (past : List (Moment State Label Effect)) (s : State) :
    Prop where
  /-- It waits for a frame no longer than the timeout, whatever arrives meanwhile. -/
  bounded : s.connection.phase = .reading → s.since ≤ s.time ∧ s.time ≤ s.since + T
  /-- It has given up no receive before its time was over, and none for which there was a frame. -/
  givesUp : ∀ m ∈ past, m.label = .giveUp → GivesUp setup T m.before m.after
  /-- After that it has read nothing more. -/
  last : ∀ early m late, past = early ++ m :: late → m.label = .giveUp →
    StaysStopped (some (.timeout .receive)) m.after late s
  /-- A receive that nothing interrupts has ended when the clock is beyond its deadline, and it
  depends only on the bytes that came in time whether it was given up. -/
  decided : ∀ later s', s.connection.phase = .reading →
    Run (Timed.step setup (some T)) s later s' → s.since + T < s'.time →
    (∀ m ∈ later, m.label.interrupts = false) →
    ∃ early m late, later = early ++ m :: late ∧ m.before.since = s.since ∧
      Outcome setup T s early m
  /-- If the peer has been silent for the whole timeout, and there is nothing to read, the receive can
  be given up, and the clock does not go on before something has ended it. -/
  due : s.connection.phase = .reading → s.connection.canRead setup = false → T ≤ silence past →
    (∃ s', step setup (some T) s .giveUp = some (s', []) ∧ GivesUp setup T s s') ∧
    ∀ n, 0 < n → step setup (some T) s (.pass n) = none
  /-- If the peer stays silent until the clock is beyond the deadline, the receive was given up. -/
  silent : ∀ later s', s.connection.phase = .reading → s.connection.canRead setup = false →
    Run (Timed.step setup (some T)) s later s' → s.since + T < s'.time →
    (∀ m ∈ later, m.label.interrupts = false ∧ m.label.endsInput = false) → arrivals later = [] →
    ∃ m ∈ later, m.label = .giveUp ∧ m.before.since = s.since

theorem patient_of_run {c : Connection.State} {time : Nat}
    (h : Run (step setup (some T)) (start c time) past s) : Patient setup T past s where
  bounded hphase := ⟨(isBounded_of_run h).1, (isBounded_of_run h).2 hphase⟩
  givesUp := by
    intro m hm hlabel
    obtain ⟨early, late, rfl⟩ := List.append_of_mem hm
    obtain ⟨hearly, hstep⟩ := h.split
    rw [hlabel] at hstep
    exact givesUp_of_step hstep (isBounded_of_run hearly)
  last := by
    rintro early m late rfl hlabel
    obtain ⟨hearly, hstep⟩ := h.split
    rw [hlabel] at hstep
    exact staysStopped_of_run (givesUp_of_step hstep (isBounded_of_run hearly)).stopped h.after
  decided := by
    intro later s' hphase hlater hlate hquiet
    obtain ⟨early, m, late, rfl, hw, hends⟩ := ends_of_run h hphase hlater hlate
    have hm := hquiet m (List.mem_append_right early List.mem_cons_self)
    exact ⟨early, m, late, rfl, hw.since, outcome_of_ends h hlater hw hends hm⟩
  due := by
    intro hphase hread hsilence
    have hle := silence_le_of_run h hphase
    have hbounded := isBounded_of_run h
    have hdue : s.since + T ≤ s.time := by omega
    refine ⟨⟨_, step_giveUp hphase hread hdue, ?_⟩, ?_⟩
    · exact givesUp_of_step (step_giveUp hphase hread hdue) hbounded
    · intro n hn
      exact step_pass_eq_none hphase (by omega)
  silent := by
    intro later s' hphase hread hlater hlate hquiet harrivals
    obtain ⟨early, m, late, rfl, hw, hends⟩ := ends_of_run h hphase hlater hlate
    have hm := hquiet m (List.mem_append_right early List.mem_cons_self)
    have houtcome := outcome_of_ends h hlater hw hends hm.1
    obtain ⟨hscan, hended⟩ := (canRead_eq_false_iff hphase).mp hread
    rw [arrivals, List.flatMap_append, List.append_eq_nil_iff] at harrivals
    cases houtcome with
    | givenUp hlabel _ _ _ _ =>
      exact ⟨m, List.mem_append_right early List.mem_cons_self, hlabel, hw.since⟩
    | read _ _ hfound =>
      rw [arrivals, harrivals.1, List.append_nil] at hfound
      rcases hfound with hframe | hover | ⟨n, hn, hinput⟩
      · exact absurd hscan hframe
      · exact absurd hover (by simp [hended])
      · exact absurd hinput (by simp [(hquiet n (List.mem_append_left _ hn)).2])

/-- **A connection waits for each frame as long as its server was told, and no longer.**  What counts
is whether the bytes that came in time hold a frame; how they were spread over the time does not. -/
theorem patient_of_readTimeout (server : Serving.Setup) (t : Transport) {built : Serving.Built}
    (htimeout : server.config.readTimeout = some T) (hbuilt : server.build? t = some built)
    (time : Nat)
    (h : Run (step (server.connection built.peer) built.reader.timeout) (start built.state time)
      past s) :
    Patient (server.connection built.peer) T past s := by
  obtain ⟨permits, _, rfl⟩ := Serving.build?_eq_some_iff.mp hbuilt
  simp only [htimeout] at h
  exact patient_of_run h

/-- A server that waits 100 ms for a frame; what was set before does not count. -/
def patientServer : Serving.Setup where
  registry := Serving.countingServer.registry
  config := .build [.readTimeout 250, .maxInFlight 1, .readTimeout 100]

/-- What it builds for a peer that has no path. -/
def patientBuilt : Serving.Built :=
  ⟨"unix:@peer", ⟨Frame.defaultLimit, some 100⟩, ⟨Frame.defaultLimit, none⟩, Connection.start 1⟩

theorem build?_patientServer :
    patientServer.build? (.accepted (.unix none)) = some patientBuilt := rfl

/-- The receives that were given up: when each of them began and when it was given up. -/
def givenUp (past : List (Moment State Label Effect)) : List (Nat × Nat) :=
  (past.filter fun m => m.label = .giveUp).map fun m => (m.before.since, m.before.time)

/-- A request comes in two parts, the second after 60 ms.  Then nothing comes, and 100 ms later the
connection gives up. -/
def patientLabels : List Label :=
  [.step .announce, .step (.arrive ((requestBytes "A.B" 5 [1]).take 20)), .pass 60,
    .step (.arrive ((requestBytes "A.B" 5 [1]).drop 20)), .step .read, .step .acquire, .pass 100,
    .giveUp, .pass 7]

theorem patient_after_request : ∃ past s,
    Run (step (patientServer.connection patientBuilt.peer) patientBuilt.reader.timeout)
      (start patientBuilt.state 0) past s ∧
    s.connection.tasks.map Task.request = [⟨"A.B", 5, [1]⟩] ∧ givenUp past = [(60, 160)] ∧
    Patient (patientServer.connection patientBuilt.peer) 100 past s := by
  have hruns : (replay (step (patientServer.connection patientBuilt.peer)
      patientBuilt.reader.timeout) (start patientBuilt.state 0) patientLabels).map
      (fun r => (r.2.connection.tasks.map Task.request, givenUp r.1))
      = some ([⟨"A.B", 5, [1]⟩], [(60, 160)]) := by decide +kernel
  obtain ⟨⟨past, s⟩, hreplay, hvalues⟩ := Option.map_eq_some_iff.mp hruns
  obtain ⟨hrequests, hgivenUp⟩ := Prod.mk.injEq _ _ _ _ ▸ hvalues
  have hrun := Run.of_replay hreplay
  exact ⟨past, s, hrun, hrequests, hgivenUp,
    patient_of_readTimeout patientServer (.accepted (.unix none)) rfl build?_patientServer 0 hrun⟩

/-- A request comes in three parts, each 60 ms after the one before.  The connection gives up before
the last of them. -/
def slowLabels : List Label :=
  [.step .announce, .step (.arrive ((requestBytes "A.B" 5 [1]).take 20)), .pass 60,
    .step (.arrive (((requestBytes "A.B" 5 [1]).drop 20).take 20)), .pass 40, .giveUp, .pass 20,
    .step (.arrive ((requestBytes "A.B" 5 [1]).drop 40))]

/-- The peer is never silent for longer than 60 ms, which is less than the timeout, and sends a whole
request.  It is given up all the same, and nothing is read. -/
theorem exists_givenUp_while_sending : ∃ past s,
    Run (step (patientServer.connection patientBuilt.peer) patientBuilt.reader.timeout)
      (start patientBuilt.state 0) past s ∧
    (∀ k, silence (past.take k) ≤ 60) ∧ arrivals past = requestBytes "A.B" 5 [1] ∧
    givenUp past = [(0, 100)] ∧ s.connection.tasks.map Task.request = [] := by
  have hruns : (replay (step (patientServer.connection patientBuilt.peer)
      patientBuilt.reader.timeout) (start patientBuilt.state 0) slowLabels).map
      (fun r => ((List.range 9).all fun k => silence (r.1.take k) ≤ 60,
        decide (r.1.length = 8 ∧ arrivals r.1 = requestBytes "A.B" 5 [1]), givenUp r.1,
        r.2.connection.tasks.map Task.request))
      = some (true, true, [(0, 100)], []) := by decide +kernel
  obtain ⟨⟨past, s⟩, hreplay, hvalues⟩ := Option.map_eq_some_iff.mp hruns
  simp only [Prod.mk.injEq, List.all_eq_true, List.mem_range, decide_eq_true_iff] at hvalues
  obtain ⟨hsilence, ⟨hlength, harrivals⟩, hgivenUp, hrequests⟩ := hvalues
  refine ⟨past, s, Run.of_replay hreplay, ?_, harrivals, hgivenUp, hrequests⟩
  intro k
  rcases Nat.lt_or_ge k 9 with hk | hk
  · exact hsilence k hk
  · have h8 := hsilence 8 (by omega)
    rw [List.take_of_length_le (by omega)] at h8 ⊢
    exact h8

end Timed

end RemoteCall.Connection
