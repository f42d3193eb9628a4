import RemoteCall.Proofs.Server.Reception

/-!
# A receive and the clock

A receive begins at a time, and with a timeout it has a deadline, which stays where it is while the
connection waits.  The clock does not go on beyond the deadline (`isBounded_of_run`).  So a wait goes
on only while everything that has arrived since it began is still there (`StillWaits`), and it has
ended when the clock is beyond the deadline (`ends_of_run`).
-/

namespace RemoteCall.Connection

variable {setup : Setup} {c c' : State} {shown : List Effect}

/-- There is a deadline if the connection waits and has a timeout. -/
theorem deadline_eq_some_iff {timeout : Option Nat} {since deadline : Nat} :
    c.deadline timeout since = some deadline ↔
      c.phase = .reading ∧ ∃ T, timeout = some T ∧ since + T = deadline := by
  unfold State.deadline
  split
  · next hphase =>
    rw [Option.map_eq_some_iff]
    exact ⟨fun h => ⟨hphase, h⟩, And.right⟩
  · next hphase => exact ⟨nofun, fun h => absurd h.1 hphase⟩

/-! ## What a step does to the clock -/

namespace Timed

variable {timeout : Option Nat} {T : Nat} {s s' : State} {label : Label} {shown : List Effect}
  {past later : List (Moment State Label Effect)}

/-- What a step with this label can do. -/
inductive Move (setup : Setup) (timeout : Option Nat) (s : State) :
    Label → State → List Effect → Prop
  | went (label : Connection.Label) (c : Connection.State) (shown : List Effect) :
      Connection.step setup s.connection label = some (c, shown) →
      Move setup timeout s (.step label)
        ⟨c, if label.beginsReading then s.time else s.since, s.time⟩ shown
  | gaveUp (T : Nat) : timeout = some T → s.connection.phase = .reading →
      s.connection.canRead setup = false → s.since + T ≤ s.time →
      Move setup timeout s .giveUp
        { s with connection := s.connection.stopReading (.timeout .receive) } []
  | passed (n : Nat) : s.connection.canRead setup = false →
      (∀ T, timeout = some T → s.connection.phase = .reading → s.time + n ≤ s.since + T) →
      Move setup timeout s (.pass n) { s with time := s.time + n } []

theorem take_giveUpReading (hphase : s.connection.phase = .reading) :
    s.take setup giveUpReading =
      some ({ s with connection := s.connection.stopReading (.timeout .receive) }, []) := by
  simp only [State.take, giveUpReading, Connection.step, hphase]
  rfl

/-- **Every step is one of the moves.** -/
theorem move_of_step (h : step setup timeout s label = some (s', shown)) :
    Move setup timeout s label s' shown := by
  cases label with
  | step label =>
    rw [step] at h
    split at h
    · cases h
    · unfold State.take at h
      split at h
      · next c shown' hstep =>
        cases h
        exact .went label c _ hstep
      · cases h
  | giveUp =>
    rw [step] at h
    split at h
    · next deadline hdeadline =>
      obtain ⟨hphase, T, hT, rfl⟩ := deadline_eq_some_iff.mp hdeadline
      split at h
      · next hdue =>
        rw [take_giveUpReading hphase] at h
        cases h
        exact .gaveUp T hT hphase hdue.1 hdue.2
      · cases h
    · cases h
  | pass n =>
    rw [step] at h
    split at h
    · cases h
    · next hread =>
      have hnot : s.connection.canRead setup = false := by simpa using hread
      split at h
      · next deadline hdeadline =>
        obtain ⟨_, T, hT, rfl⟩ := deadline_eq_some_iff.mp hdeadline
        split at h
        · next hle =>
          cases h
          refine .passed n hnot ?_
          intro T' hT' _
          cases hT.symm.trans hT'
          exact hle
        · cases h
      · next hdeadline =>
        cases h
        refine .passed n hnot ?_
        intro T hT hphase
        have hsome : s.connection.deadline timeout s.since = some (s.since + T) :=
          deadline_eq_some_iff.mpr ⟨hphase, T, hT, rfl⟩
        rw [hdeadline] at hsome
        cases hsome

/-- A connection that waits and cannot read gives up when its time is over. -/
theorem step_giveUp (hphase : s.connection.phase = .reading)
    (hread : s.connection.canRead setup = false) (hdue : s.since + T ≤ s.time) :
    step setup (some T) s .giveUp =
      some ({ s with connection := s.connection.stopReading (.timeout .receive) }, []) := by
  have hdeadline : s.connection.deadline (some T) s.since = some (s.since + T) :=
    deadline_eq_some_iff.mpr ⟨hphase, T, rfl, rfl⟩
  simp only [step, hdeadline]
  rw [if_pos ⟨hread, hdue⟩, take_giveUpReading hphase]

theorem canRead_of_step (h : step setup timeout s (.step .read) = some (s', shown)) :
    s.connection.canRead setup = true := by
  cases move_of_step h with
  | went _ c _ hstep => rw [State.canRead, hstep, Option.isSome_some]

/-- The clock does not go on beyond the deadline. -/
theorem step_pass_eq_none (hphase : s.connection.phase = .reading) {n : Nat}
    (hlate : s.since + T < s.time + n) : step setup (some T) s (.pass n) = none := by
  cases hstep : step setup (some T) s (.pass n) with
  | none => rfl
  | some next =>
    obtain ⟨s', shown⟩ := next
    cases move_of_step hstep with
    | passed _ _ hle =>
      have := hle T rfl hphase
      omega

/-! ## No receive takes longer than the timeout -/

/-- A connection that waits has begun to wait, and has not waited longer than its timeout. -/
def State.IsBounded (T : Nat) (s : State) : Prop :=
  s.since ≤ s.time ∧ (s.connection.phase = .reading → s.time ≤ s.since + T)

theorem isBounded_start (c : Connection.State) (time : Nat) : (start c time).IsBounded T := by
  refine ⟨Nat.le_refl time, fun _ => ?_⟩
  show time ≤ time + T
  omega

theorem isBounded_step (h : step setup (some T) s label = some (s', shown))
    (hs : s.IsBounded T) : s'.IsBounded T := by
  obtain ⟨hsince, htime⟩ := hs
  cases move_of_step h with
  | went label c _ hstep =>
    cases hbegins : label.beginsReading with
    | true => exact ⟨Nat.le_refl s.time, fun _ => Nat.le_add_right s.time T⟩
    | false =>
      refine ⟨hsince, fun hafter => ?_⟩
      exact htime (reading_of_step hstep hafter hbegins)
  | gaveUp _ _ _ _ _ => exact ⟨hsince, fun hafter => by cases hafter⟩
  | passed n _ hle =>
    refine ⟨?_, hle T rfl⟩
    show s.since ≤ s.time + n
    omega

theorem isBounded_of_run {c : Connection.State} {time : Nat}
    (h : Run (step setup (some T)) (start c time) past s) : s.IsBounded T := by
  induction h with
  | start => exact isBounded_start c time
  | snoc _ hstep ih => exact isBounded_step hstep ih

/-! ## How a receive goes on -/

/-- The bytes that arrive with a step. -/
def Label.arrival : Label → Bytes
  | .step label => label.arrival
  | _ => []

/-- Whether the peer ends its stream with this step. -/
def Label.endsInput : Label → Bool
  | .step label => label = .endInput
  | _ => false

/-- Whether a step ends the wait for a frame. -/
def Label.endsReceive : Label → Bool
  | .step label => label.endsReceive
  | .giveUp => true
  | .pass _ => false

/-- Whether a step ends the wait for a frame for a reason that has to do neither with the bytes nor
with the time: the shutdown, or another failure. -/
def Label.interrupts : Label → Bool
  | .step .notice => true
  | .step (.failRead _) => true
  | _ => false

theorem Label.endsReceive_cases (h : label.endsReceive = true) :
    label = .giveUp ∨ label = .step .read ∨ label.interrupts = true := by
  cases label with
  | step label =>
    cases label with
    | read => exact Or.inr (Or.inl rfl)
    | notice | failRead => exact Or.inr (Or.inr rfl)
    | _ => cases h
  | giveUp => exact Or.inl rfl
  | pass _ => cases h

/-- All bytes that arrived. -/
def arrivals (past : List (Moment State Label Effect)) : Bytes :=
  past.flatMap fun m => m.label.arrival

/-- A connection that waited still waits for the same frame, and everything that arrived since is
there. -/
structure StillWaits (s : State) (later : List (Moment State Label Effect)) (s' : State) :
    Prop where
  phase : s'.connection.phase = .reading
  since : s'.since = s.since
  inbox : s'.connection.inbox = s.connection.inbox ++ arrivals later
  ended : s'.connection.inputEnded =
    (s.connection.inputEnded || later.any fun m => m.label.endsInput)

/-- A step while the connection waits. -/
theorem StillWaits.step (hw : StillWaits s later s') {s'' : State}
    (h : step setup timeout s' label = some (s'', shown)) :
    label.endsReceive = true ∨ StillWaits s (later ++ [⟨s', label, s'', shown⟩]) s'' := by
  have harrivals : arrivals (later ++ [⟨s', label, s'', shown⟩]) =
      arrivals later ++ label.arrival := by
    rw [arrivals, List.flatMap_append, List.flatMap_singleton]
    rfl
  have hended : ((later ++ [(⟨s', label, s'', shown⟩ : Moment State Label Effect)]).any
      fun m => m.label.endsInput) = ((later.any fun m => m.label.endsInput) || label.endsInput) := by
    rw [List.any_append]
    simp
  cases move_of_step h with
  | went label c shown hstep =>
    have hbegins := not_begins_of_reading hstep hw.phase
    cases reception_of_step hstep with
    | waits _ hafter _ hinbox hinput =>
      refine Or.inr ⟨hafter, ?_, ?_, ?_⟩
      · show (if label.beginsReading then s'.time else s'.since) = s.since
        rw [hbegins]
        exact hw.since
      · rw [harrivals, ← List.append_assoc, ← hw.inbox]
        exact hinbox
      · rw [hended, ← Bool.or_assoc, ← hw.ended]
        exact hinput
    | ends _ _ hends => exact Or.inl hends
    | absent hother _ _ _ _ _ => exact absurd hw.phase hother
  | gaveUp _ _ _ _ _ => exact Or.inl rfl
  | passed n _ _ =>
    refine Or.inr ⟨hw.phase, hw.since, ?_, ?_⟩
    · rw [harrivals, show (Label.pass n).arrival = [] from rfl, List.append_nil]
      exact hw.inbox
    · rw [hended]
      exact hw.ended.trans (by simp [Label.endsInput])

/-- A wait goes on, or one of the steps has ended it. -/
theorem waits_or_ends (hphase : s.connection.phase = .reading)
    (h : Run (Timed.step setup timeout) s later s') :
    StillWaits s later s' ∨ ∃ early m late, later = early ++ m :: late ∧
      StillWaits s early m.before ∧ m.label.endsReceive = true := by
  induction h with
  | start => exact Or.inl ⟨hphase, rfl, (List.append_nil _).symm, (Bool.or_false _).symm⟩
  | @snoc later s' s'' label shown hrun hstep ih =>
    rcases ih with hw | ⟨early, m, late, rfl, hw, hends⟩
    · rcases hw.step hstep with hends | hw'
      · exact Or.inr ⟨later, _, [], rfl, hw, hends⟩
      · exact Or.inl hw'
    · exact Or.inr ⟨early, m, late ++ [_], by rw [List.append_assoc, List.cons_append], hw, hends⟩

/-- When the clock is beyond the deadline, the wait has ended. -/
theorem ends_of_run {c : Connection.State} {time : Nat}
    (hpast : Run (step setup (some T)) (start c time) past s)
    (hphase : s.connection.phase = .reading) (h : Run (Timed.step setup (some T)) s later s')
    (hlate : s.since + T < s'.time) : ∃ early m late, later = early ++ m :: late ∧
      StillWaits s early m.before ∧ m.label.endsReceive = true := by
  rcases waits_or_ends hphase h with hw | hends
  · have hbounded := (isBounded_of_run (hpast.append h)).2 hw.phase
    rw [hw.since] at hbounded
    omega
  · exact hends

end Timed

end RemoteCall.Connection
