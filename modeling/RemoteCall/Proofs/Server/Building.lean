import RemoteCall.Proofs.Frame.Boundaries
import RemoteCall.Proofs.Server.Limit
import RemoteCall.Proofs.Server.Shutdown
import RemoteCall.Server.Transport

/-!
# Building connections

Settings are made one after the other, and the last of each kind counts (`get_foldl`).  What becomes
of them when a connection is built depends on their kind:

* any frame limit can be served, because both halves of a transport clamp it to what the length in
  front of a body can tell;
* any timeout can be served, because it is only passed on to the half that receives;
* the number of requests at once is raised to one, but it is not lowered to `maxPermits`, and
  nothing is built where it is larger.

So settings that were accepted without complaint can bring the server down at its first connection
(`exists_brokenDown`).  `built_of_settings` says that this is the only way in which it can happen,
and what every connection that is built comes out as.
-/

namespace RemoteCall

namespace ServerConfig

/-! ## The last setting of a kind counts -/

/-- How many requests at once a setting asks for. -/
def Setting.maxInFlight? : Setting → Option Nat
  | .maxInFlight n => some n
  | _ => none

/-- The limit on frames that a setting asks for. -/
def Setting.frameLimit? : Setting → Option Nat
  | .frameLimit n => some n
  | _ => none

/-- The timeout that a setting asks for; none takes it away again. -/
def Setting.readTimeout? : Setting → Option (Option Nat)
  | .readTimeout ms => some (some ms)
  | _ => none

/-- What the last setting of a kind asks for. -/
def lastOf {α : Type} (pick : Setting → Option α) (settings : List Setting) (otherwise : α) : α :=
  (settings.filterMap pick).getLastD otherwise

/-- A part of the settings that follows one kind of setting ends as the last of that kind has it. -/
theorem get_foldl {α β : Type} (get : ServerConfig → β) (pick : Setting → Option α) (f : α → β)
    (hset : ∀ c x, get (set c x) = (pick x).elim (get c) f) (settings : List Setting)
    {c : ServerConfig} {a : α} (hstart : get c = f a) :
    get (settings.foldl set c) = f (lastOf pick settings a) := by
  -- the settings are made from the front, so what was asked for last is carried along
  induction settings generalizing c a with
  | nil => exact hstart
  | cons x settings ih =>
    rw [List.foldl_cons, lastOf]
    cases hpick : pick x with
    | none =>
      rw [List.filterMap_cons_none hpick]
      refine ih ?_
      rw [hset, hpick]
      exact hstart
    | some b =>
      rw [List.filterMap_cons_some hpick, List.getLastD_cons]
      refine ih ?_
      rw [hset, hpick]
      rfl

theorem maxInFlight_build (settings : List Setting) :
    (build settings).maxInFlight = max (lastOf Setting.maxInFlight? settings 256) 1 :=
  get_foldl maxInFlight Setting.maxInFlight? (max · 1) (by intro c x; cases x <;> rfl) settings rfl

theorem frameLimit_build (settings : List Setting) :
    (build settings).frameLimit = lastOf Setting.frameLimit? settings Frame.defaultLimit :=
  get_foldl frameLimit Setting.frameLimit? id (by intro c x; cases x <;> rfl) settings rfl

theorem readTimeout_build (settings : List Setting) :
    (build settings).readTimeout = lastOf Setting.readTimeout? settings none :=
  get_foldl readTimeout Setting.readTimeout? id (by intro c x; cases x <;> rfl) settings rfl

/-- The permits are as many as the settings ask for, or none can be had. -/
theorem permits?_eq_some_iff {config : ServerConfig} {permits : Nat} :
    config.permits? = some permits ↔ permits = config.maxInFlight ∧ permits ≤ maxPermits := by
  unfold permits?
  split
  · next hle =>
    constructor
    · intro h
      cases h
      exact ⟨rfl, hle⟩
    · rintro ⟨rfl, _⟩
      rfl
  · next hlt =>
    constructor
    · intro h
      cases h
    · rintro ⟨rfl, hle⟩
      exact absurd hle hlt

theorem permits?_eq_none_iff {config : ServerConfig} :
    config.permits? = none ↔ maxPermits < config.maxInFlight := by
  unfold permits?
  split
  · next hle =>
    constructor
    · intro h
      cases h
    · intro hlt
      omega
  · next hlt =>
    constructor
    · intro _
      omega
    · intro _
      rfl

end ServerConfig

namespace Serving

open ServerConfig (Setting lastOf)

/-! ## One connection -/

/-- A connection as its settings ask for it, whatever the transport was set to before. -/
structure Built.Meets (built : Built) (settings : List Setting) (t : Transport) : Prop where
  peer : built.peer = t.remote.name
  permits : built.state =
    Connection.start (max (lastOf Setting.maxInFlight? settings 256) 1)
  /-- There is at least one permit, and there are no more than can be had. -/
  admitted : 1 ≤ built.state.permits ∧ built.state.permits ≤ maxPermits
  /-- Both directions have the same limit. -/
  same : built.reader.limit = built.writer.limit
  /-- It is one that the length in front of a body can tell. -/
  told : built.reader.limit ≤ Frame.longest
  /-- A limit that the length can tell is taken as it is. -/
  limit : lastOf Setting.frameLimit? settings Frame.defaultLimit ≤ Frame.longest →
    built.reader.limit = lastOf Setting.frameLimit? settings Frame.defaultLimit
  timeout : built.reader.timeout = lastOf Setting.readTimeout? settings none
  /-- How long sending may take is not for the server to set. -/
  sending : built.writer.timeout = t.writer.timeout

variable {setup : Setup} {t : Transport} {built : Built}

theorem build?_eq_some_iff : setup.build? t = some built ↔
    ∃ permits, setup.config.permits? = some permits ∧
      built = ⟨t.remote.name,
        ⟨Frame.clampLimit setup.config.frameLimit, setup.config.readTimeout⟩,
        ⟨Frame.clampLimit setup.config.frameLimit, t.writer.timeout⟩,
        Connection.start permits⟩ := by
  unfold Setup.build?
  cases setup.config.permits? with
  | none => simp
  | some permits =>
    constructor
    · intro h
      cases h
      exact ⟨permits, rfl, rfl⟩
    · rintro ⟨_, heq, rfl⟩
      cases heq
      rfl

theorem build?_eq_none_iff : setup.build? t = none ↔ setup.config.permits? = none := by
  unfold Setup.build?
  cases setup.config.permits? <;> simp

/-- What a server serves is what it has built: accepting a transport adds the built connection, or
brings the server down where there is none. -/
theorem step_accept_eq {s : State} (h : s.phase = .accepting) (t : Transport) :
    step setup s (.accept t.remote.name) =
      match setup.build? t with
      | some built =>
        some ({ s with connections := s.connections ++ [⟨built.peer, built.state⟩] }, [])
      | none => some ({ s with phase := .brokenDown }, []) := by
  rw [step, h]
  cases hpermits : setup.config.permits? with
  | none => rw [build?_eq_none_iff.mpr hpermits]
  | some permits => rw [build?_eq_some_iff.mpr ⟨permits, hpermits, rfl⟩]

/-- A connection runs with the limit of the half that receives. -/
theorem connection_of_build? (h : setup.build? t = some built) :
    setup.connection built.peer = ⟨built.peer, setup.registry, built.reader.limit⟩ := by
  obtain ⟨permits, _, rfl⟩ := build?_eq_some_iff.mp h
  rfl

theorem meets_of_build? {registry : Registry Method} {settings : List Setting}
    (h : Setup.build? ⟨registry, .build settings⟩ t = some built) : built.Meets settings t := by
  obtain ⟨permits, hpermits, rfl⟩ := build?_eq_some_iff.mp h
  obtain ⟨heq, hle⟩ := ServerConfig.permits?_eq_some_iff.mp hpermits
  have hone : 1 ≤ permits := ServerConfig.one_le_permits hpermits
  rw [ServerConfig.maxInFlight_build] at heq
  exact {
    peer := rfl
    permits := congrArg Connection.start heq
    admitted := ⟨hone, hle⟩
    same := rfl
    told := Frame.clampLimit_le _
    limit := by
      intro hlimit
      show Frame.clampLimit (ServerConfig.build settings).frameLimit = _
      rw [ServerConfig.frameLimit_build]
      exact Nat.min_eq_left hlimit
    timeout := ServerConfig.readTimeout_build settings
    sending := rfl }

/-! ## A server that runs -/

variable {s : State} {past : List (Moment State Label Effect)}

/-- Whether somebody connects with this step. -/
def Label.isAccept : Label → Bool
  | .accept _ => true
  | _ => false

/-- A server breaks down at its first connection if its permits cannot be had, and never
otherwise. -/
theorem brokenDown_iff_of_run (h : Run (step setup) start past s) :
    s.phase = .brokenDown ↔
      setup.config.permits? = none ∧ ∃ m ∈ past, m.label.isAccept = true := by
  induction h with
  | start => simp [start]
  | @snoc past s s' label shown hrun hstep ih =>
    have hsnoc : (∃ m ∈ past ++ [(⟨s, label, s', shown⟩ : Moment State Label Effect)],
        m.label.isAccept = true) ↔
        (∃ m ∈ past, m.label.isAccept = true) ∨ label.isAccept = true := by
      simp [or_and_right, exists_or]
    rw [hsnoc]
    -- a step at which nobody connects neither breaks the server down nor mends it
    have hquiet : label.isAccept = false → (s'.phase = .brokenDown ↔ s.phase = .brokenDown) →
        (s'.phase = .brokenDown ↔ setup.config.permits? = none ∧
          ((∃ m ∈ past, m.label.isAccept = true) ∨ label.isAccept = true)) := by
      intro hlabel hphase
      rw [hphase, ih, hlabel]
      simp
    cases move_of_step hstep with
    | signalled => exact hquiet rfl Iff.rfl
    | accepted peer permits hphase hpermits =>
      rw [hpermits]
      simp [hphase]
    | brokeDown peer hphase hpermits =>
      rw [hpermits]
      simp [Label.isAccept]
    | retried _ hphase _ => exact hquiet rfl Iff.rfl
    | paused _ hphase _ => exact hquiet rfl (by simp [hphase])
    | gaveUp _ hphase _ => exact hquiet rfl (by simp [hphase, State.beginStop])
    | woke hphase => exact hquiet rfl (by simp [hphase])
    | stopped hphase _ => exact hquiet rfl (by simp [hphase, State.beginStop])
    | went i c label state shown hi hgoes => exact hquiet rfl Iff.rfl
    | finished outcome hphase hended => exact hquiet rfl (by simp [hphase])

/-- **Which settings can be served.**  If they ask for no more requests at once than there can be
permits, a connection is built from every transport, it is as the settings ask for it, the server
serves it with the limit of its halves, and the server never breaks down.  If they ask for more,
nothing is built from any transport, and the server breaks down as soon as somebody connects. -/
theorem built_of_settings (registry : Registry Method) (settings : List Setting) (t : Transport)
    (h : Run (step ⟨registry, .build settings⟩) start past s) :
    (lastOf Setting.maxInFlight? settings 256 ≤ maxPermits →
      (∃ built, Setup.build? ⟨registry, .build settings⟩ t = some built ∧
        built.Meets settings t ∧
        Setup.connection ⟨registry, .build settings⟩ built.peer =
          ⟨built.peer, registry, built.reader.limit⟩ ∧
        (s.phase = .accepting → step ⟨registry, .build settings⟩ s (.accept t.remote.name) =
          some ({ s with connections := s.connections ++ [⟨built.peer, built.state⟩] }, []))) ∧
      s.phase ≠ .brokenDown) ∧
    (maxPermits < lastOf Setting.maxInFlight? settings 256 →
      Setup.build? ⟨registry, .build settings⟩ t = none ∧
      (s.phase = .brokenDown ↔ ∃ m ∈ past, m.label.isAccept = true)) := by
  have hnone : (ServerConfig.build settings).permits? = none ↔
      maxPermits < lastOf Setting.maxInFlight? settings 256 := by
    have hone : 1 ≤ maxPermits := by decide
    rw [ServerConfig.permits?_eq_none_iff, ServerConfig.maxInFlight_build]
    omega
  have hbroken := brokenDown_iff_of_run h
  constructor
  · intro hle
    have hsome : (ServerConfig.build settings).permits? ≠ none := by
      rw [ne_eq, hnone]
      omega
    obtain ⟨permits, hpermits⟩ := Option.ne_none_iff_exists'.mp hsome
    obtain ⟨built, hbuilt⟩ : ∃ built, Setup.build? ⟨registry, .build settings⟩ t = some built :=
      ⟨_, build?_eq_some_iff.mpr ⟨permits, hpermits, rfl⟩⟩
    refine ⟨⟨built, hbuilt, meets_of_build? hbuilt, connection_of_build? hbuilt, ?_⟩, ?_⟩
    · intro hphase
      rw [step_accept_eq hphase t, hbuilt]
    · intro hphase
      exact hsome (hbroken.mp hphase).1
  · intro hlt
    have hpermits := hnone.mpr hlt
    refine ⟨build?_eq_none_iff.mpr hpermits, ?_⟩
    rw [hbroken]
    exact ⟨And.right, And.intro hpermits⟩

/-- No requests at once are asked for, and then the most that there can be; the limit on frames is
beyond what a length can tell.  Two peers have connected, and a third comes with a transport that has
settings of its own. -/
theorem built_at_limits :
    ∃ past s built, Run (step ⟨.empty, .build [.maxInFlight 0, .frameLimit (2 ^ 64 - 1),
        .maxInFlight maxPermits]⟩) start past s ∧
      s.connections.map Served.peer = ["unix:@peer", "[::1]:80"] ∧
      Setup.build? ⟨.empty, .build [.maxInFlight 0, .frameLimit (2 ^ 64 - 1),
        .maxInFlight maxPermits]⟩ ⟨.unix (some "/s"), ⟨7, some 1⟩, ⟨9, some 2⟩⟩ = some built ∧
      built.reader = ⟨2 ^ 32 - 1, none⟩ ∧ built.writer = ⟨2 ^ 32 - 1, some 2⟩ ∧
      s.phase ≠ .brokenDown := by
  have hreplay : replay (step ⟨.empty, .build [.maxInFlight 0, .frameLimit (2 ^ 64 - 1),
      .maxInFlight maxPermits]⟩) start [.accept "unix:@peer", .accept "[::1]:80"] =
      some (_, _) := rfl
  have hrun := Run.of_replay hreplay
  obtain ⟨⟨built, hbuilt, _⟩, hphase⟩ := (built_of_settings .empty _
    ⟨.unix (some "/s"), ⟨7, some 1⟩, ⟨9, some 2⟩⟩ hrun).1 (by decide)
  refine ⟨_, _, built, hrun, rfl, hbuilt, ?_, ?_, hphase⟩
  · cases hbuilt
    rfl
  · cases hbuilt
    rfl

/-- One permit more than can be had is asked for.  The settings are accepted, and the server listens;
then nothing can be built from any transport, and the first connection brings the server down. -/
theorem exists_brokenDown :
    2 ^ 61 < UInt64.size ∧
    (∀ t, Setup.build? ⟨.empty, .build [.maxInFlight (2 ^ 61)]⟩ t = none) ∧
    ∃ past s, Run (step ⟨.empty, .build [.maxInFlight (2 ^ 61)]⟩) start past s ∧
      past.map Moment.label = [.accept "[::1]:80"] ∧ s.phase = .brokenDown := by
  refine ⟨by decide, fun t => rfl, ?_⟩
  exact ⟨_, _, .snoc .start rfl, rfl, rfl⟩

end Serving

end RemoteCall
