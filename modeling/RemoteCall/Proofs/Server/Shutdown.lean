import RemoteCall.Proofs.Server.Lifecycle
import RemoteCall.Proofs.Server.Responses

/-!
# Shutting down

A server stops accepting once: when it learns of the signal, or when accepting fails for good.  It
then tells its connections to shut down, and returns when all of them have ended.

What one connection of a server does is a run of its own, from the moment at which it was accepted:
the steps that it takes, and between them the announcement of the shutdown (`course`).  So whatever
is true of the runs of a connection is true of every connection of a server, whatever the others do
(`run_course`).  With that, `shutDown_of_run` says what a server has done when it returns.
-/

namespace RemoteCall.Serving

/-! ## What a step of a server does -/

/-- What a step with this label can do. -/
inductive Move (setup : Setup) (s : State) : Label → State → List Effect → Prop
  | signalled : Move setup s .signal { s with signalled := true } []
  | accepted (peer : String) (permits : Nat) : s.phase = .accepting →
      setup.config.permits? = some permits →
      Move setup s (.accept peer)
        { s with connections := s.connections ++ [⟨peer, Connection.start permits⟩] } []
  | brokeDown (peer : String) : s.phase = .accepting → setup.config.permits? = none →
      Move setup s (.accept peer) { s with phase := .brokenDown } []
  | retried (cause : LinkError) : s.phase = .accepting → verdict cause = .retry →
      Move setup s (.failAccept cause) s []
  | paused (cause : LinkError) : s.phase = .accepting → verdict cause = .pause →
      Move setup s (.failAccept cause) { s with phase := .pausing } []
  | gaveUp (cause : LinkError) : s.phase = .accepting → verdict cause = .giveUp →
      Move setup s (.failAccept cause) (s.beginStop (some cause)) []
  | woke : s.phase = .pausing → Move setup s .wake { s with phase := .accepting } []
  | stopped : s.phase = .accepting → s.signalled = true → Move setup s .stop (s.beginStop none) []
  | went (i : Nat) (c : Served) (label : Connection.Label) (state : Connection.State)
      (shown : List Connection.Effect) : s.connections[i]? = some c →
      Connection.step (setup.connection c.peer) c.state label = some (state, shown) →
      Move setup s (.connection i label)
        { s with connections := s.connections.set i ⟨c.peer, state⟩ }
        (shown.map (.connection i))
  | finished (outcome : Option LinkError) : s.phase = .stopping outcome →
      (s.connections.all fun c => c.state.hasEnded) = true →
      Move setup s .finish { s with phase := .returned outcome } [.closeListener]

variable {setup : Setup} {s s' : State} {label : Label} {shown : List Effect}
  {past : List (Moment State Label Effect)}

theorem move_connection {i : Nat} {label : Connection.Label}
    (h : s.connectionStep setup i label = some (s', shown)) :
    Move setup s (.connection i label) s' shown := by
  unfold State.connectionStep at h
  split at h
  · cases h
  · next peer state hi =>
    split at h
    · cases h
    · next state' shown' hstep =>
      cases h
      exact .went i ⟨peer, state⟩ label state' shown' hi hstep

/-- **Every step is one of the moves.** -/
theorem move_of_step (h : step setup s label = some (s', shown)) : Move setup s label s' shown := by
  cases label with
  | signal =>
    cases h
    exact .signalled
  | accept peer =>
    rw [step] at h
    split at h
    · next hphase =>
      split at h
      · next permits hpermits =>
        cases h
        exact .accepted peer permits hphase hpermits
      · next hpermits =>
        cases h
        exact .brokeDown peer hphase hpermits
    · cases h
  | failAccept cause =>
    rw [step] at h
    split at h
    · next hphase =>
      split at h
      · next hverdict =>
        cases h
        exact .retried cause hphase hverdict
      · next hverdict =>
        cases h
        exact .paused cause hphase hverdict
      · next hverdict =>
        cases h
        exact .gaveUp cause hphase hverdict
    · cases h
  | wake =>
    rw [step] at h
    split at h
    · next hphase =>
      cases h
      exact .woke hphase
    · cases h
  | stop =>
    rw [step] at h
    split at h
    · next hphase =>
      split at h
      · next hsignalled =>
        cases h
        exact .stopped hphase hsignalled
      · cases h
    · cases h
  | connection i label =>
    cases label with
    | shutdown => cases h
    | _ => exact move_connection h
  | finish =>
    rw [step] at h
    split at h
    · next outcome hphase =>
      split at h
      · next hended =>
        cases h
        exact .finished outcome hphase hended
      · cases h
    · cases h

/-! ## The part of one connection -/

/-- What a step of the server is for connection `i`. -/
def Label.of (i : Nat) : Label → Option Connection.Label
  | .connection j label => if j = i then some label else none
  | .stop => some .shutdown
  | .failAccept cause => if verdict cause = .giveUp then some .shutdown else none
  | _ => none

/-- What connection `i` shows. -/
def Effect.of (i : Nat) : Effect → Option Connection.Effect
  | .connection j effect => if j = i then some effect else none
  | .closeListener => none

/-- What connection `i` does at a moment of the server, if it was accepted before. -/
def part (i : Nat) (m : Moment State Label Effect) :
    Option (Moment Connection.State Connection.Label Connection.Effect) :=
  match m.before.connections[i]?, m.label.of i, m.after.connections[i]? with
  | some c, some label, some c' => some ⟨c.state, label, c'.state, m.shown.filterMap (Effect.of i)⟩
  | _, _, _ => none

/-- What connection `i` does in a run of the server. -/
def course (i : Nat) (past : List (Moment State Label Effect)) :
    List (Moment Connection.State Connection.Label Connection.Effect) :=
  past.filterMap (part i)

theorem filterMap_of_map (i j : Nat) (shown : List Connection.Effect) :
    (shown.map (Effect.connection i)).filterMap (Effect.of j) = if i = j then shown else [] := by
  rw [List.filterMap_map]
  by_cases hij : i = j
  · rw [if_pos hij]
    rw [show Effect.of j ∘ Effect.connection i = some from funext fun _ => if_pos hij,
      List.filterMap_some]
  · rw [if_neg hij, List.filterMap_eq_nil_iff]
    exact fun x _ => if_neg hij

/-- What a step of the server means for one connection, which it may accept. -/
inductive Stride (setup : Setup) (i : Nat) (m : Moment State Label Effect) : Prop
  /-- The connection has no part in it. -/
  | idle : part i m = none → m.shown.filterMap (Effect.of i) = [] →
      m.after.connections[i]? = m.before.connections[i]? → Stride setup i m
  | accepted (peer : String) (permits : Nat) : part i m = none →
      m.shown.filterMap (Effect.of i) = [] → m.before.connections[i]? = none →
      setup.config.permits? = some permits →
      m.after.connections[i]? = some ⟨peer, Connection.start permits⟩ → Stride setup i m
  | goes (c : Served) (label : Connection.Label) (state : Connection.State)
      (shown : List Connection.Effect) : part i m = some ⟨c.state, label, state, shown⟩ →
      m.shown.filterMap (Effect.of i) = shown → m.before.connections[i]? = some c →
      Connection.step (setup.connection c.peer) c.state label = some (state, shown) →
      m.after.connections[i]? = some ⟨c.peer, state⟩ → Stride setup i m

theorem part_eq_none {i : Nat} {m : Moment State Label Effect} (h : m.label.of i = none) :
    part i m = none := by
  unfold part
  rw [h]
  split
  · next hlabel _ => cases hlabel
  · rfl

/-- The server tells all connections to shut down. -/
theorem stride_beginStop (i : Nat) (outcome : Option LinkError) (label : Label)
    (hlabel : label.of i = some .shutdown) :
    Stride setup i ⟨s, label, s.beginStop outcome, []⟩ := by
  have hafter : (s.beginStop outcome).connections[i]? = s.connections[i]?.map fun c =>
      { c with state := { c.state with shutdown := true } } := List.getElem?_map
  cases hi : s.connections[i]? with
  | none =>
    rw [hi] at hafter
    refine .idle ?_ rfl (hafter.trans hi.symm)
    simp only [part, hi]
  | some c =>
    rw [hi] at hafter
    refine .goes c .shutdown _ [] ?_ rfl hi rfl hafter
    simp only [part, hi, hlabel, hafter]
    rfl

theorem stride_of_step (i : Nat) (h : step setup s label = some (s', shown)) :
    Stride setup i ⟨s, label, s', shown⟩ := by
  cases move_of_step h with
  | signalled => exact .idle (part_eq_none rfl) rfl rfl
  | accepted peer permits _ hpermits =>
    rcases Nat.lt_trichotomy i s.connections.length with hlt | rfl | hgt
    · exact .idle (part_eq_none rfl) rfl (List.getElem?_append_left hlt)
    · exact .accepted peer permits (part_eq_none rfl) rfl (List.getElem?_eq_none (Nat.le_refl _))
        hpermits List.getElem?_concat_length
    · refine .idle (part_eq_none rfl) rfl ?_
      rw [List.getElem?_eq_none (Nat.le_of_lt hgt), List.getElem?_eq_none]
      rw [List.length_append, List.length_singleton]
      exact hgt
  | brokeDown _ _ _ => exact .idle (part_eq_none rfl) rfl rfl
  | retried cause _ hverdict => exact .idle (part_eq_none (by simp [Label.of, hverdict])) rfl rfl
  | paused cause _ hverdict => exact .idle (part_eq_none (by simp [Label.of, hverdict])) rfl rfl
  | gaveUp cause _ hverdict =>
    exact stride_beginStop i (some cause) (.failAccept cause) (if_pos hverdict)
  | woke _ => exact .idle (part_eq_none rfl) rfl rfl
  | stopped _ _ => exact stride_beginStop i none .stop rfl
  | went j c label state shown hj hstep =>
    by_cases hij : j = i
    · subst hij
      have hafter : (s.connections.set j ⟨c.peer, state⟩)[j]? = some ⟨c.peer, state⟩ :=
        List.getElem?_set_self (List.getElem?_eq_some_iff.mp hj).1
      have hshown : (shown.map (Effect.connection j)).filterMap (Effect.of j) = shown := by
        rw [filterMap_of_map, if_pos rfl]
      refine .goes c label state shown ?_ hshown hj hstep hafter
      simp only [part, Label.of, hj, if_pos, hafter, hshown]
    · refine .idle (part_eq_none (if_neg hij)) ?_ (List.getElem?_set_ne hij)
      exact (filterMap_of_map j i shown).trans (if_neg hij)
  | finished _ _ _ => exact .idle (part_eq_none rfl) rfl rfl

/-- **What one connection of a server does is a run of its own**, from its acceptance on. -/
theorem run_course (h : Run (step setup) start past s) (i : Nat) :
    (s.connections[i]? = none → course i past = []) ∧
      ∀ c, s.connections[i]? = some c → ∃ permits, setup.config.permits? = some permits ∧
        Run (Connection.step (setup.connection c.peer)) (Connection.start permits) (course i past)
          c.state := by
  induction h with
  | start => exact ⟨fun _ => rfl, fun _ hi => by cases hi⟩
  | @snoc past s s' label shown hrun hstep ih =>
    rw [course, filterMap_concat]
    cases stride_of_step i hstep with
    | idle hpart _ hsame =>
      rw [hpart, hsame, Option.toList_none, List.append_nil]
      exact ih
    | accepted peer permits hpart _ hnone hpermits hi =>
      rw [hpart, hi, Option.toList_none, List.append_nil]
      refine ⟨fun hi => (by cases hi), fun c hc => ?_⟩
      cases hc
      have hnil : past.filterMap (part i) = [] := ih.1 hnone
      rw [hnil]
      exact ⟨permits, hpermits, .start⟩
    | goes c label state shown hpart _ hi hgoes hafter =>
      rw [hpart, hafter, Option.toList_some]
      refine ⟨fun hi => (by cases hi), fun c' hc => ?_⟩
      cases hc
      obtain ⟨permits, hpermits, hcourse⟩ := ih.2 c hi
      exact ⟨permits, hpermits, hcourse.snoc hgoes⟩

/-- What it shows in its own run is what it shows in that of the server. -/
theorem effects_course (h : Run (step setup) start past s) (i : Nat) :
    effects (course i past) = (effects past).filterMap (Effect.of i) := by
  induction h with
  | start => rfl
  | @snoc past s s' label shown hrun hstep ih =>
    rw [effects_snoc, List.filterMap_append, ← ih, course, filterMap_concat]
    cases stride_of_step i hstep with
    | idle hpart hnone _ => 
      rw [hpart, hnone, Option.toList_none, List.append_nil, List.append_nil]
      rfl
    | accepted _ _ hpart hnone _ _ _ =>
      rw [hpart, hnone, Option.toList_none, List.append_nil, List.append_nil]
      rfl
    | goes c label state shown hpart hshown _ _ _ =>
      rw [hpart, hshown, Option.toList_some, effects_snoc]
      rfl

/-! ## How accepting ends -/

/-- Whether the server has stopped accepting, and how. -/
def Phase.outcome? : Phase → Option (Option LinkError)
  | .stopping outcome => some outcome
  | .returned outcome => some outcome
  | _ => none

/-- Why the server stops accepting at a moment, given those before it. -/
inductive Stops (early : List (Moment State Label Effect)) (m : Moment State Label Effect) :
    Option LinkError → Prop
  /-- The signal has come. -/
  | signal : m.label = .stop → (∃ n ∈ early, n.label = .signal) → Stops early m none
  /-- Accepting fails for good. -/
  | failure (cause : LinkError) : m.label = .failAccept cause → verdict cause = .giveUp →
      Stops early m (some cause)

theorem signal_of_run (h : Run (step setup) start past s) (hsignalled : s.signalled = true) :
    ∃ n ∈ past, n.label = .signal := by
  induction h with
  | start => cases hsignalled
  | @snoc past s s' label shown hrun hstep ih =>
    have hbefore : s.signalled = true → ∃ n ∈ past ++ [⟨s, label, s', shown⟩], n.label = .signal := by
      intro hs
      obtain ⟨n, hn, hlabel⟩ := ih hs
      exact ⟨n, List.mem_append_left _ hn, hlabel⟩
    cases move_of_step hstep with
    | signalled => exact ⟨_, List.mem_append_right _ (List.mem_singleton_self _), rfl⟩
    | _ => exact hbefore hsignalled

/-- **A server stops accepting for a reason, and never accepts again.** -/
theorem stops_of_run (h : Run (step setup) start past s) {outcome : Option LinkError}
    (houtcome : s.phase.outcome? = some outcome) : ∃ early m late, past = early ++ m :: late ∧
      Stops early m outcome ∧ m.before.phase = .accepting ∧
        ∀ n ∈ late, n.before.phase.outcome? = some outcome := by
  induction h with
  | start => cases houtcome
  | @snoc past s s' label shown hrun hstep ih =>
    have hgoes : s.phase.outcome? = some outcome → ∃ early m late,
        past ++ [⟨s, label, s', shown⟩] = early ++ m :: late ∧ Stops early m outcome ∧
          m.before.phase = .accepting ∧ ∀ n ∈ late, n.before.phase.outcome? = some outcome := by
      intro hs
      obtain ⟨early, m, late, rfl, hstops, hbefore, hlate⟩ := ih hs
      refine ⟨early, m, late ++ [⟨s, label, s', shown⟩], by simp, hstops, hbefore, ?_⟩
      intro n hn
      rcases List.mem_append.mp hn with hn | hn
      · exact hlate n hn
      · rw [List.mem_singleton.mp hn]
        exact hs
    cases move_of_step hstep with
    | signalled => exact hgoes houtcome
    | accepted _ _ hphase _ =>
      simp only [hphase] at houtcome
      cases houtcome
    | brokeDown _ _ _ => cases houtcome
    | retried _ _ _ => exact hgoes houtcome
    | paused _ _ _ => cases houtcome
    | gaveUp cause hphase hverdict =>
      cases houtcome
      exact ⟨past, _, [], rfl, .failure cause rfl hverdict, hphase, fun _ hn => by cases hn⟩
    | woke _ => cases houtcome
    | stopped hphase hsignalled =>
      cases houtcome
      exact ⟨past, _, [], rfl, .signal rfl (signal_of_run hrun hsignalled), hphase,
        fun _ hn => by cases hn⟩
    | went _ _ _ _ _ _ _ => exact hgoes houtcome
    | finished _ hphase _ =>
      cases houtcome
      exact hgoes (by rw [hphase]; rfl)

/-- The peer of a connection that comes. -/
def Label.peer? : Label → Option String
  | .accept peer => some peer
  | _ => none

theorem map_peer_set {connections : List Served} {i : Nat} {c : Served} (state : Connection.State)
    (hi : connections[i]? = some c) :
    (connections.set i ⟨c.peer, state⟩).map Served.peer = connections.map Served.peer := by
  obtain ⟨hlt, rfl⟩ := List.getElem?_eq_some_iff.mp hi
  rw [List.map_set, ← List.getElem_map Served.peer, List.set_getElem_self]
  rwa [List.length_map]

/-- **The connections of a server are those that came**, in order. -/
theorem peers_of_run (h : Run (step setup) start past s) (hphase : s.phase ≠ .brokenDown) :
    s.connections.map Served.peer = past.filterMap fun m => m.label.peer? := by
  induction h with
  | start => rfl
  | @snoc past s s' label shown hrun hstep ih =>
    rw [filterMap_concat]
    have hsame : label.peer? = none → s.phase ≠ .brokenDown →
        s'.connections.map Served.peer = s.connections.map Served.peer →
        s'.connections.map Served.peer
          = (past.filterMap fun m => m.label.peer?) ++ label.peer?.toList := by
      intro hnone hs hpeers
      rw [hnone, hpeers, ih hs, Option.toList_none, List.append_nil]
    cases move_of_step hstep with
    | signalled => exact hsame rfl hphase rfl
    | accepted peer permits haccepting _ =>
      rw [List.map_append, ih (by simp [haccepting])]
      rfl
    | brokeDown _ _ _ => exact absurd rfl hphase
    | retried _ _ _ => exact hsame rfl hphase rfl
    | paused _ haccepting _ => exact hsame rfl (by simp [haccepting]) rfl
    | gaveUp _ haccepting _ =>
      exact hsame rfl (by simp [haccepting]) (by simp [State.beginStop, Function.comp_def])
    | woke hpausing => exact hsame rfl (by simp [hpausing]) rfl
    | stopped haccepting _ =>
      exact hsame rfl (by simp [haccepting]) (by simp [State.beginStop, Function.comp_def])
    | went i c _ state _ hi _ => exact hsame rfl hphase (map_peer_set state hi)
    | finished _ hstopping _ => exact hsame rfl (by simp [hstopping]) rfl

/-! ## The return -/

/-- What is shown up to the return, and that all connections have ended then. -/
structure Closing (past : List (Moment State Label Effect)) (s : State) : Prop where
  before : (∀ outcome, s.phase ≠ .returned outcome) → .closeListener ∉ effects past
  after : ∀ outcome, s.phase = .returned outcome →
    (∀ c ∈ s.connections, c.state.hasEnded = true) ∧
      ∃ shown, effects past = shown ++ [.closeListener] ∧ .closeListener ∉ shown

theorem Closing.quiet (h : Closing past s) (hs : ∀ outcome, s.phase ≠ .returned outcome)
    (hs' : ∀ outcome, s'.phase ≠ .returned outcome) :
    Closing (past ++ [⟨s, label, s', []⟩]) s' := by
  refine ⟨fun _ => ?_, fun outcome hphase => absurd hphase (hs' outcome)⟩
  rw [effects_snoc, List.append_nil]
  exact h.before hs

/-- A connection that has ended shows nothing more. -/
theorem ended_of_went (hregistry : setup.registry.Registered Method.ReportsRuns)
    (h : Run (step setup) start past s) {i : Nat} {c : Served} {label : Connection.Label}
    {state : Connection.State} {shown : List Connection.Effect} (hi : s.connections[i]? = some c)
    (hstep : Connection.step (setup.connection c.peer) c.state label = some (state, shown))
    (hended : c.state.hasEnded = true) : shown = [] ∧ state.hasEnded = true := by
  obtain ⟨_, _, hrun⟩ := (run_course h i).2 c hi
  exact (Connection.turn_of_run hregistry hrun hstep).of_ended (Connection.phased_of_run hrun) hended

/-- **The server returns last**: when all its connections have ended, and nothing is shown
after. -/
theorem closing_of_run (hregistry : setup.registry.Registered Method.ReportsRuns)
    (h : Run (step setup) start past s) : Closing past s := by
  induction h with
  | start => exact ⟨fun _ hmem => (by cases hmem), fun _ hphase => (by cases hphase)⟩
  | @snoc past s s' label shown hrun hstep ih =>
    cases move_of_step hstep with
    | signalled =>
      refine ⟨fun hphase => ?_, fun outcome hphase => ?_⟩ <;> rw [effects_snoc, List.append_nil]
      · exact ih.before hphase
      · exact ih.after outcome hphase
    | accepted _ _ hphase _ => exact ih.quiet (by simp [hphase]) (by simp [hphase])
    | brokeDown _ hphase _ => exact ih.quiet (by simp [hphase]) (by simp)
    | retried _ hphase _ => exact ih.quiet (by simp [hphase]) (by simp [hphase])
    | paused _ hphase _ => exact ih.quiet (by simp [hphase]) (by simp)
    | gaveUp _ hphase _ => exact ih.quiet (by simp [hphase]) (by simp [State.beginStop])
    | woke hphase => exact ih.quiet (by simp [hphase]) (by simp)
    | stopped hphase _ => exact ih.quiet (by simp [hphase]) (by simp [State.beginStop])
    | went i c label state shown hi hgoes =>
      refine ⟨fun hphase hmem => ?_, fun outcome hphase => ?_⟩
      · rw [effects_snoc, List.mem_append] at hmem
        rcases hmem with hmem | hmem
        · exact ih.before hphase hmem
        · obtain ⟨_, _, heq⟩ := List.mem_map.mp hmem
          cases heq
      · obtain ⟨hended, hclosed⟩ := ih.after outcome hphase
        obtain ⟨rfl, hstate⟩ :=
          ended_of_went hregistry hrun hi hgoes (hended c (List.mem_of_getElem? hi))
        refine ⟨fun c' hc' => ?_, ?_⟩
        · rcases List.mem_or_eq_of_mem_set hc' with hc' | rfl
          · exact hended c' hc'
          · exact hstate
        · rw [effects_snoc]
          exact (List.append_nil (effects past)).symm ▸ hclosed
    | finished outcome hphase hended =>
      refine ⟨fun hother => absurd rfl (hother outcome), fun _ _ => ⟨?_, effects past, ?_, ?_⟩⟩
      · exact fun c hc => List.all_eq_true.mp hended c hc
      · rw [effects_snoc]
      · exact ih.before (by simp [hphase])

/-- What a server has done that has returned with this outcome. -/
structure ShutDown (setup : Setup) (past : List (Moment State Label Effect)) (s : State)
    (outcome : Option LinkError) : Prop where
  /-- It stopped accepting once, because of the signal or with the failure that it returns. -/
  stopped : ∃ early m late, past = early ++ m :: late ∧ Stops early m outcome ∧
    m.before.phase = .accepting ∧ ∀ n ∈ late, n.before.phase.outcome? = some outcome
  /-- Its connections are those that came until then. -/
  peers : s.connections.map Served.peer = past.filterMap fun m => m.label.peer?
  /-- Each of them has run from its start to its end, as a connection that is served alone might, and
  has lived like one that has ended. -/
  connections : ∀ i c, s.connections[i]? = some c →
    (∃ permits, Run (Connection.step (setup.connection c.peer)) (Connection.start permits)
      (course i past) c.state) ∧
    effects (course i past) = (effects past).filterMap (Effect.of i) ∧
    Connection.Lived (setup.connection c.peer) (course i past) c.state
  /-- The listener is closed when all that was shown, and nothing is shown after. -/
  closed : ∃ shown, effects past = shown ++ [.closeListener] ∧ .closeListener ∉ shown

/-- **A server that has returned has shut down properly**, whatever its peers, its handlers and its
listener have done, and whenever the signal came. -/
theorem shutDown_of_run (hregistry : setup.registry.Registered Method.ReportsRuns)
    {outcome : Option LinkError} (h : Run (step setup) start past s)
    (hreturned : s.phase = .returned outcome) : ShutDown setup past s outcome := by
  have hclosing := (closing_of_run hregistry h).after outcome hreturned
  refine ⟨stops_of_run h (by rw [hreturned]; rfl), peers_of_run h (by simp [hreturned]), ?_,
    hclosing.2⟩
  intro i c hi
  obtain ⟨permits, _, hrun⟩ := (run_course h i).2 c hi
  exact ⟨⟨permits, hrun⟩, effects_course h i,
    Connection.lived_of_run hregistry hrun (hclosing.1 c (List.mem_of_getElem? hi))⟩

/-- A server with two methods, of which one adds one and the other panics.  It handles one request at
a time on each connection. -/
def countingServer : Setup where
  registry := ⟨[("A", [("B", .ofHandler (fun n _ : UInt8 => .done (n + 1)) 0),
    ("C", .ofHandler (fun _ _ : UInt8 => .panicked) 0)])]⟩
  config := .build [.maxInFlight 1]

theorem registered_countingServer : countingServer.registry.Registered Method.ReportsRuns := by
  refine .register "A" [("B", .ofHandler (fun n _ : UInt8 => .done (n + 1)) 0),
    ("C", .ofHandler (fun _ _ : UInt8 => .panicked) 0)] .empty ?_ rfl
  intro entry hentry
  simp only [List.mem_cons, List.not_mem_nil, or_false] at hentry
  rcases hentry with rfl | rfl
  · exact Method.reportsRuns_ofHandler _ _
  · exact Method.reportsRuns_ofHandler _ _

/-- When the signal comes, one connection has a request in its handler and another that waits for a
permit, the reply of a second connection has just broken off, and a third was accepted and has not
begun.  Before, accepting has failed twice, the second time for want of files. -/
def busyLabels : List Label :=
  [.accept "first", .connection 0 .announce, .failAccept (.io (.plain .connectionAborted)),
    .failAccept (.io (.os 24)),
    .connection 0 (.arrive (Connection.requestBytes "A.B" 5 [1] ++
      Connection.requestBytes "A.C" 6 [2])),
    .connection 0 .read, .connection 0 .acquire, .connection 0 .read, .wake, .accept "second",
    .connection 1 .announce, .connection 1 (.arrive (Connection.requestBytes "X.Y" 7 [])),
    .connection 1 .read, .connection 1 (.takeWriter 0), .connection 1 (.write 10),
    .connection 1 (.failWrite (.io (.plain .brokenPipe))), .signal, .accept "third", .stop,
    .connection 1 .resume, .connection 2 .announce, .connection 0 (.handle 0),
    .connection 0 (.takeWriter 0), .connection 1 .drain, .connection 1 .endOutput,
    .connection 0 (.write 47), .connection 1 .announceEnd, .connection 2 .notice,
    .connection 0 (.report 0 0), .connection 0 .acquire, .connection 0 .notice,
    .connection 2 .drain, .connection 0 (.handle 1), .connection 0 (.takeWriter 1),
    .connection 0 (.write 74), .connection 2 .endOutput, .connection 0 (.report 1 0),
    .connection 2 .announceEnd, .connection 0 .drain, .connection 0 .endOutput,
    .connection 0 .announceEnd, .finish]

theorem shutDown_of_busy_run : ∃ past s, Run (step countingServer) start past s ∧
    s.phase = .returned none ∧
    (List.range 3).map (fun i => Connection.endings (countingServer.connection "") (course i past))
      = [[.shutdown], [.unanswered 0 (.io (.plain .brokenPipe))], [.shutdown]] ∧
    ShutDown countingServer past s none := by
  have hruns : (replay (step countingServer) start busyLabels).map (fun r => (r.2.phase,
      (List.range 3).map fun i =>
        Connection.endings (countingServer.connection "") (course i r.1)))
      = some (.returned none, [[.shutdown], [.unanswered 0 (.io (.plain .brokenPipe))],
        [.shutdown]]) := by decide +kernel
  obtain ⟨⟨past, s⟩, hreplay, hvalues⟩ := Option.map_eq_some_iff.mp hruns
  obtain ⟨hphase, hendings⟩ := Prod.mk.injEq _ _ _ _ ▸ hvalues
  have hrun := Run.of_replay hreplay
  exact ⟨past, s, hrun, hphase, hendings, shutDown_of_run registered_countingServer hrun hphase⟩

end RemoteCall.Serving
