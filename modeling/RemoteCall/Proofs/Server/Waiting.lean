import RemoteCall.Proofs.Frame.Deadline
import RemoteCall.Proofs.Server.Patience

/-!
# Waiting for a frame is receiving

While a connection waits for a frame, bytes arrive at certain times, and the stream may end.  That is
an inflow (`inflow`), and the connection makes of it what a receiver with the same limit and timeout
makes of it: it gives up exactly if `Frame.receive` does (`givesUp_iff_receive`).  Nothing may come at
the deadline itself, since there the connection may still be ahead of what comes, or may not.
-/

namespace RemoteCall.Connection

variable {setup : Setup} {c c' : State} {label : Label} {shown : List Effect}

/-- Nothing arrives behind the end of the stream. -/
theorem inputEnded_of_step (h : step setup c label = some (c', shown))
    (hended : c.inputEnded = true) : c'.inputEnded = true ∧ ∀ bytes, label ≠ .arrive bytes := by
  cases move_of_step h with
  | arrived bytes hopen =>
    rw [hended] at hopen
    cases hopen
  | inputOver => exact ⟨rfl, nofun⟩
  | took _ _ _ _ _ _ htake =>
    rw [eq_of_takeOver htake]
    exact ⟨hended, nofun⟩
  | _ => exact ⟨hended, nofun⟩

namespace Timed

variable {timeout : Option Nat} {T deadline : Nat} {s s' : State} {label : Label}
  {later early late : List (Moment State Label Effect)} {m : Moment State Label Effect}

/-! ## The clock goes forward -/

theorem time_le_of_step (h : step setup timeout s label = some (s', shown)) : s.time ≤ s'.time := by
  cases move_of_step h with
  | went _ _ _ _ => exact Nat.le_refl s.time
  | gaveUp _ _ _ _ _ => exact Nat.le_refl s.time
  | passed n _ _ => exact Nat.le_add_right s.time n

theorem time_le_of_run (h : Run (step setup timeout) s later s') :
    s.time ≤ s'.time ∧ ∀ m ∈ later, s.time ≤ m.before.time ∧ m.before.time ≤ s'.time := by
  induction h with
  | start => exact ⟨Nat.le_refl s.time, by simp⟩
  | @snoc later s' s'' label shown hrun hstep ih =>
    have hle := time_le_of_step hstep
    refine ⟨by omega, fun m hm => ?_⟩
    rcases List.mem_append.mp hm with hm | hm
    · have := ih.2 m hm
      omega
    · cases List.mem_singleton.mp hm
      exact ⟨ih.1, hle⟩

theorem time_le_of_mem_early (h : Run (step setup timeout) s (early ++ m :: late) s')
    {n : Moment State Label Effect} (hn : n ∈ early) : n.before.time ≤ m.before.time :=
  ((time_le_of_run h.split.1).2 n hn).2

theorem time_le_of_mem_late (h : Run (step setup timeout) s (early ++ m :: late) s')
    {n : Moment State Label Effect} (hn : n ∈ late) : m.before.time ≤ n.before.time := by
  have hle := time_le_of_step h.split.2
  have := ((time_le_of_run h.after).2 n hn).1
  omega

/-! ## What a run brings -/

/-- What arrives with a step, and when. -/
def piece? (m : Moment State Label Effect) : Option (Nat × Bytes) :=
  match m.label with
  | .step (.arrive bytes) => some (m.before.time, bytes)
  | _ => none

/-- When the stream ends. -/
def inputEnding? (later : List (Moment State Label Effect)) : Option Nat :=
  (later.find? fun m => m.label.endsInput).map fun m => m.before.time

/-- What reaches a connection that waits: what is there already, and what comes later. -/
def inflow (s : State) (later : List (Moment State Label Effect)) : Frame.Inflow :=
  ⟨(s.since, s.connection.inbox) :: later.filterMap piece?,
    if s.connection.inputEnded then some s.since else inputEnding? later⟩

/-- Whether something comes from the peer with a step. -/
def Label.isInput : Label → Bool
  | .step (.arrive _) => true
  | .step .endInput => true
  | _ => false

theorem isInput_of_endsInput (h : label.endsInput = true) : label.isInput = true := by
  cases label with
  | step label =>
    rw [of_decide_eq_true h]
    rfl
  | _ => cases h

theorem time_of_piece? {p : Nat × Bytes} (h : piece? m = some p) :
    p.1 = m.before.time ∧ m.label.isInput = true := by
  unfold piece? at h
  split at h
  · next bytes hlabel =>
    cases h
    exact ⟨rfl, by rw [hlabel]; rfl⟩
  · cases h

theorem arrival_eq (m : Moment State Label Effect) :
    m.label.arrival = (piece? m).elim [] fun p => p.2 := by
  obtain ⟨_, label, _, _⟩ := m
  cases label with
  | step label => cases label <;> rfl
  | _ => rfl

theorem flatMap_pieces (later : List (Moment State Label Effect)) :
    (later.filterMap piece?).flatMap (fun p => p.2) = arrivals later := by
  induction later with
  | nil => rfl
  | cons m later ih =>
    have hcons : arrivals (m :: later) = m.label.arrival ++ arrivals later := List.flatMap_cons
    rw [hcons, ← ih, arrival_eq]
    cases hpiece : piece? m with
    | none =>
      rw [List.filterMap_cons_none hpiece]
      rfl
    | some p =>
      rw [List.filterMap_cons_some hpiece, List.flatMap_cons]
      rfl

/-- Behind the end of the stream a run brings nothing. -/
theorem pieces_of_inputEnded (h : Run (step setup timeout) s later s')
    (hended : s.connection.inputEnded = true) :
    s'.connection.inputEnded = true ∧ later.filterMap piece? = [] := by
  induction h with
  | start => exact ⟨hended, rfl⟩
  | @snoc later s' s'' label shown hrun hstep ih =>
    rw [filterMap_concat, ih.2, List.nil_append]
    cases move_of_step hstep with
    | went label c shown hstep' =>
      obtain ⟨hended', hlabel⟩ := inputEnded_of_step hstep' ih.1
      refine ⟨hended', ?_⟩
      cases label with
      | arrive bytes => exact absurd rfl (hlabel bytes)
      | _ => rfl
    | gaveUp _ _ _ _ _ => exact ⟨ih.1, rfl⟩
    | passed _ _ _ => exact ⟨ih.1, rfl⟩

/-! ## What comes in time -/

theorem inTime_of_early {early late : List (Nat × Bytes)} {ending : Option Nat}
    (h : ∀ p ∈ early, p.1 < deadline) :
    Frame.Inflow.inTime ⟨early ++ late, ending⟩ deadline =
      early.flatMap (fun p => p.2) ++ Frame.Inflow.inTime ⟨late, ending⟩ deadline := by
  induction early with
  | nil => rfl
  | cons p early ih =>
    obtain ⟨t, bytes⟩ := p
    rw [List.cons_append, Frame.inTime_of_early (h (t, bytes) List.mem_cons_self),
      ih fun p hp => h p (List.mem_cons_of_mem _ hp), List.flatMap_cons, List.append_assoc]

theorem inTime_of_late {late : List (Nat × Bytes)} {ending : Option Nat}
    (h : ∀ p ∈ late, deadline ≤ p.1) : Frame.Inflow.inTime ⟨late, ending⟩ deadline = [] := by
  cases late with
  | nil => rfl
  | cons p late => exact Frame.inTime_of_late (h p List.mem_cons_self)

/-- What comes before a moment comes in time, if the moment does and nothing comes at the
deadline. -/
theorem early_inTime (h : Run (step setup timeout) s (early ++ m :: late) s')
    (htime : m.before.time ≤ deadline)
    (htie : ∀ n ∈ early ++ m :: late, n.before.time = deadline → n.label.isInput = false) :
    ∀ n ∈ early, n.label.isInput = true → n.before.time < deadline := by
  intro n hn hinput
  have hle := time_le_of_mem_early h hn
  have hne : n.before.time ≠ deadline := by
    intro heq
    rw [htie n (List.mem_append_left _ hn) heq] at hinput
    cases hinput
  omega

/-- What is there at a moment comes in time if the moment does; at the deadline itself that is all
that comes in time. -/
theorem inTime_inflow (h : Run (step setup timeout) s (early ++ m :: late) s')
    (hsince : s.since < deadline) (htime : m.before.time ≤ deadline)
    (htie : ∀ n ∈ early ++ m :: late, n.before.time = deadline → n.label.isInput = false) :
    ∃ more, (inflow s (early ++ m :: late)).inTime deadline =
        s.connection.inbox ++ arrivals early ++ more ∧
      (m.before.time = deadline → more = []) := by
  have hearly : ∀ p ∈ (s.since, s.connection.inbox) :: early.filterMap piece?, p.1 < deadline := by
    intro p hp
    rcases List.mem_cons.mp hp with rfl | hp
    · exact hsince
    · obtain ⟨n, hn, hpiece⟩ := List.mem_filterMap.mp hp
      obtain ⟨heq, hinput⟩ := time_of_piece? hpiece
      rw [heq]
      exact early_inTime h htime htie n hn hinput
  refine ⟨Frame.Inflow.inTime ⟨(m :: late).filterMap piece?,
    (inflow s (early ++ m :: late)).ending⟩ deadline, ?_, ?_⟩
  · rw [inflow, List.filterMap_append, ← List.cons_append, inTime_of_early hearly,
      List.flatMap_cons, flatMap_pieces]
  · intro hdeadline
    refine inTime_of_late ?_
    intro p hp
    obtain ⟨n, hn, hpiece⟩ := List.mem_filterMap.mp hp
    obtain ⟨heq, _⟩ := time_of_piece? hpiece
    rw [heq, ← hdeadline]
    rcases List.mem_cons.mp hn with rfl | hn
    · exact Nat.le_refl _
    · exact time_le_of_mem_late h hn

/-- The stream goes on at the deadline if it has not ended before. -/
theorem isOver_eq_false (h : Run (step setup timeout) s (early ++ m :: late) s')
    (htime : m.before.time = deadline) (hopen : s.connection.inputEnded = false)
    (hearly : ∀ n ∈ early, n.label.endsInput = false) :
    (inflow s (early ++ m :: late)).isOver deadline = false := by
  have hending : (inflow s (early ++ m :: late)).ending.any (· < deadline) = false := by
    rw [inflow, hopen]
    cases hfind : (early ++ m :: late).find? fun m => m.label.endsInput with
    | none => simp [inputEnding?, hfind]
    | some n =>
      have hlater : m.before.time ≤ n.before.time := by
        rcases List.mem_append.mp (List.mem_of_find?_eq_some hfind) with hn | hn
        · have hends := List.find?_some hfind
          rw [hearly n hn] at hends
          cases hends
        · rcases List.mem_cons.mp hn with rfl | hn
          · exact Nat.le_refl _
          · exact time_le_of_mem_late h hn
      simp [inputEnding?, hfind]
      omega
  rw [Frame.Inflow.isOver, hending, Bool.and_false]

/-- The stream is over at the deadline if it has ended before. -/
theorem isOver_eq_true (h : Run (step setup timeout) s (early ++ m :: late) s')
    (hsince : s.since < deadline) (htime : m.before.time ≤ deadline)
    (htie : ∀ n ∈ early ++ m :: late, n.before.time = deadline → n.label.isInput = false)
    (hw : StillWaits s early m.before) (hended : m.before.connection.inputEnded = true) :
    (inflow s (early ++ m :: late)).isOver deadline = true := by
  have hinput := early_inTime h htime htie
  have hrest : Run (step setup timeout) m.before (m :: late) s' :=
    (Run.start.snoc h.split.2).append h.after
  have hpieces : (m :: late).filterMap piece? = [] := (pieces_of_inputEnded hrest hended).2
  have hall : ((inflow s (early ++ m :: late)).pieces.all fun p => p.1 < deadline) = true := by
    rw [inflow, List.filterMap_append, hpieces, List.append_nil, List.all_cons,
      decide_eq_true hsince, Bool.true_and, List.all_eq_true]
    intro p hp
    obtain ⟨n, hn, hpiece⟩ := List.mem_filterMap.mp hp
    obtain ⟨heq, hin⟩ := time_of_piece? hpiece
    rw [heq]
    exact decide_eq_true (hinput n hn hin)
  have hending : (inflow s (early ++ m :: late)).ending.any (· < deadline) = true := by
    rw [hw.ended, Bool.or_eq_true] at hended
    rcases Bool.eq_false_or_eq_true s.connection.inputEnded with hwas | hwas
    · simp [inflow, hwas, hsince]
    · -- the end of the stream that counts is the first one, and it came early
      have hsome : (early.find? fun m => m.label.endsInput).isSome = true := by
        rw [List.find?_isSome]
        simpa [hwas] using hended
      obtain ⟨n, hfind⟩ := Option.isSome_iff_exists.mp hsome
      have hends := List.find?_some hfind
      have hn := hinput n (List.mem_of_find?_eq_some hfind) (isInput_of_endsInput hends)
      simp [inflow, hwas, inputEnding?, List.find?_append, hfind, hn]
  rw [Frame.Inflow.isOver, hall, hending, Bool.true_and]

/-! ## The same outcome -/

/-- **A connection that waits is a receiver.**  If nothing interrupts it and nothing comes at the
deadline itself, it gives up exactly if the receiver does. -/
theorem givesUp_iff_receive {c : Connection.State} {time : Nat} (hT : 0 < T)
    {past : List (Moment State Label Effect)}
    (hpast : Run (step setup (some T)) (start c time) past s)
    (hphase : s.connection.phase = .reading) (h : Run (step setup (some T)) s later s')
    (hlate : s.since + T < s'.time) (hquiet : ∀ m ∈ later, m.label.interrupts = false)
    (htie : ∀ m ∈ later, m.before.time = s.since + T → m.label.isInput = false) :
    ∃ early m late, later = early ++ m :: late ∧ StillWaits s early m.before ∧
      m.label.endsReceive = true ∧
      (m.label = .giveUp ↔ ∃ t after, Frame.receive ⟨setup.frameLimit, some T⟩ s.since
        (inflow s later) = .failed (.timeout .receive) t after) := by
  obtain ⟨early, m, late, rfl, hw, hends⟩ := ends_of_run hpast hphase h hlate
  have hm := hquiet m (List.mem_append_right early List.mem_cons_self)
  have hsince : s.since < s.since + T := by omega
  refine ⟨early, m, late, rfl, hw, hends, ?_⟩
  rw [Frame.receive_eq_timeout_iff hT]
  cases outcome_of_ends hpast h hw hends hm with
  | givenUp hlabel htime hscan hopen hearly =>
    obtain ⟨more, hbytes, hnone⟩ := inTime_inflow h hsince (Nat.le_of_eq htime) htie
    rw [hbytes, hnone htime, List.append_nil]
    exact ⟨fun _ => ⟨hscan, isOver_eq_false h htime hopen hearly⟩, fun _ => hlabel⟩
  | read hlabel htime hfound =>
    obtain ⟨more, hbytes, _⟩ := inTime_inflow h hsince htime htie
    rw [hbytes, hlabel]
    refine ⟨nofun, fun ⟨hscan, hover⟩ => ?_⟩
    exfalso
    rcases hfound with hframe | hended
    · exact Frame.scan_append_ne_short hframe more hscan
    · have hended' : m.before.connection.inputEnded = true := by
        rw [hw.ended, Bool.or_eq_true, List.any_eq_true]
        exact hended
      rw [isOver_eq_true h hsince htime htie hw hended'] at hover
      cases hover

end Timed

end RemoteCall.Connection
