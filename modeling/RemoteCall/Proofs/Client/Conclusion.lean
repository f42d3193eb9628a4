import RemoteCall.Proofs.Client.Correlation
import RemoteCall.Proofs.Client.Duty

/-!
# A client ends once, and leaves nobody waiting

Reader, writer, closers and the last user may all end the same client, in any order and while others
go on calling.  `Concluded` is what holds from the first ending on, whatever else happens: the table
stays as that ending left it; every call that was registered by then has its outcome, was given up
by its own caller, or is settled before its party does anything else; what the ending took off the
table is told the cause of that ending and never another; new calls are refused; and the end is
announced once, with the number of calls that it ended, apart from closers who come later and
announce that they found none.

`Opened` is what holds before, and `Aftermath` says how the table, the outcomes and the
announcements go on afterwards; both go along with a run.
-/

namespace RemoteCall.Client

variable {setup : Setup} {s s' : State} {act : Option Act} {taken : Option Envelope}
  {past early late : List (Moment State Label Effect)} {m : Moment State Label Effect}
  {label : Label} {shown : List Effect} {ending : Ending}

/-! ## What a conclusion is -/

/-- The caller gave up, or could not hand its frame over; either way it has left. -/
def Call.IsGone (c : Call) : Prop :=
  c.stage = .abandoned ∨ ∃ cause, c.stage = .failed cause

/-- The announcements that were made in the course of a run. -/
def reported (past : List (Moment State Label Effect)) : List Event :=
  past.flatMap fun m => reports m.shown

/-- What closers announce who find that the client has ended already. -/
def closings (setup : Setup) (past : List (Moment State Label Effect)) : List Event :=
  (past.filter fun m => m.label = .close).map fun _ => .clientShutdown setup.peer 0 none

/-- What a client guarantees after its first ending `m`, behind which came the moments `late`. -/
structure Concluded (setup : Setup) (early : List (Moment State Label Effect))
    (m : Moment State Label Effect) (late : List (Moment State Label Effect)) (s : State)
    (ending : Ending) : Prop where
  /-- Until then the table was open. -/
  opened : m.before.pending.shut = false
  /-- From then on it is shut and empty, and gives out no more numbers. -/
  frozen : s.pending = ⟨m.before.pending.nextSeq, [], true⟩
  /-- A call that was registered by then has its outcome, or its caller has left, or some party is
  bound to settle it. -/
  settled : ∀ (i : Nat) (c : Call), m.before.calls[i]? = some c → c.seq.isSome = true →
    ∃ c', s.calls[i]? = some c' ∧
      (c'.slot.isSome = true ∨ c'.IsGone ∨ ∃ p outcome, Act.settle i outcome ∈ s.duty p)
  /-- A call that the ending took off the table receives what the ending means, and nothing else. -/
  drained : ∀ entry ∈ m.before.pending.entries,
    ∃ c, s.calls[entry.call]? = some c ∧ c.seq = some entry.seq ∧
      (received (early ++ m :: late) entry.call = [ending.outcome] ∧
          (c.slot = some ending.outcome ∨ c.IsGone) ∨
        received (early ++ m :: late) entry.call = [] ∧
          ∃ p, Act.settle entry.call ending.outcome ∈ s.duty p)
  /-- A party that is bound to do something does that first, and can do it. -/
  dutiful : ∀ n ∈ early ++ m :: late, ∀ p, n.label.party? = some p →
    n.before.nextAct n.label = (n.before.duty p).head?
  able : ∀ p act rest, s.duty p = act :: rest →
    ∃ label, (step setup s label).isSome = true ∧ s.nextAct label = some act
  /-- A new call fails, and nothing else happens. -/
  refused : ∀ n ∈ late, ∀ method payload keepsClient, n.label = .call method payload keepsClient →
    n.after = { n.before with
      calls := n.before.calls ++ [⟨method, payload, keepsClient, none, .failed .closed, none⟩] } ∧
    n.shown = []
  /-- That the connection fails later on makes no difference to anybody. -/
  unheard : ∀ n ∈ late, ∀ cause, n.before.failure setup n.label = some cause →
    n.after.pending = n.before.pending ∧ n.after.calls = n.before.calls ∧
      n.after.todo.Perm n.before.todo ∧ n.shown = []
  /-- An outcome that a call once had is the one that it has. -/
  lasting : ∀ n ∈ early ++ m :: late, ∀ (i : Nat) (c : Call) (outcome : Outcome),
    n.after.calls[i]? = some c → c.slot = some outcome →
    ∃ c', s.calls[i]? = some c' ∧ c'.slot = some outcome ∧
      (c.stage = .finished outcome → c'.stage = .finished outcome)
  /-- The first ending is announced once, with the number of calls that it took off the table. -/
  announced : (reported (early ++ m :: late) ++ s.unreported).Perm
    (ending.reports setup m.before.pending.entries.length ++ closings setup late)

/-! ## Before the end -/

/-- A client that nothing has ended. -/
structure Opened (past : List (Moment State Label Effect)) (s : State) : Prop where
  shut : s.pending.shut = false
  quiet : reported past ++ s.unreported = []

theorem reported_append (past late : List (Moment State Label Effect)) :
    reported (past ++ late) = reported past ++ reported late :=
  List.flatMap_append

theorem reported_singleton (m : Moment State Label Effect) : reported [m] = reports m.shown := by
  rw [reported, List.flatMap_cons, List.flatMap_nil, List.append_nil]

theorem opened_of_run (h : Run (step setup) start past s)
    (hnone : ∀ m ∈ past, m.before.ending setup m.label = none) : Opened past s := by
  induction h with
  | start => exact ⟨rfl, rfl⟩
  | @snoc past s s' label shown hrun hstep ih =>
    obtain ⟨hshut, hquiet⟩ := ih fun m hm => hnone m (List.mem_append_left _ hm)
    have hcontinues := continues_of_step hstep
      (hnone ⟨s, label, s', shown⟩ (List.mem_append_right _ (List.mem_singleton_self _)))
    refine ⟨hcontinues.shut.trans hshut, ?_⟩
    rw [List.append_eq_nil_iff] at hquiet
    have hreports := hcontinues.reports
    rw [hquiet.2, List.perm_nil] at hreports
    rw [reported_append, reported_singleton, List.append_assoc, hquiet.1, hreports]
    rfl

/-! ## The table -/

/-- A table that was shut down never changes again. -/
theorem Change.frozen {p : Pending} (h : Change s act taken s') (hs : s.pending = p.shutDown) :
    s'.pending = p.shutDown := by
  have hremove : ∀ seq, s.pending.remove seq = p.shutDown := by
    intro seq
    rw [hs]
    rfl
  cases h with
  | idle _ hp _ _ => exact hp.trans hs
  | began _ _ _ hopen _ _ _ =>
    rw [hs] at hopen
    cases hopen
  | refused _ _ _ hp _ _ => exact hp.trans hs
  | moved _ _ _ _ _ _ hp _ _ => exact hp.trans hs
  | collected _ _ _ _ _ _ hp _ _ => exact hp.trans hs
  | left _ c _ _ _ _ _ hp _ _ =>
    rw [hp, State.forget]
    split
    · exact hremove _
    · exact hs
  | answered _ _ _ hp _ _ => exact hp.trans (hremove _)
  | oversized _ _ _ _ hp _ _ => exact hp.trans (hremove _)
  | shut _ _ _ hp _ _ =>
    rw [hp, hs]
    rfl
  | performed _ _ hp _ => exact hp.trans hs

theorem frozen_of_run (h : Run (step setup) start past s) {p : Pending}
    (hs : s.pending = p.shutDown) {t : State} (hlate : Run (step setup) s late t) :
    t.pending = p.shutDown := by
  induction hlate with
  | start => exact hs
  | snoc hrun hstep ih =>
    have hregular := (ledger_of_run (h.append hrun)).regular
    exact (change_of_step hregular hstep).1.frozen ih

/-! ## Outcomes -/

/-- Where no entries come or go, a call has received and is owed what it had received and was owed
before. -/
theorem account_perm {i : Nat} (h : Turn s s' (s.nextAct label) taken i) (hs : s.waiting i = [])
    (hs' : s'.waiting i = []) :
    (received (past ++ [⟨s, label, s', shown⟩]) i ++ s'.owed i).Perm
      (received past i ++ s.owed i) := by
  rw [received_snoc, List.append_assoc]
  cases h with
  | kept _ hperm => exact List.Perm.append_left _ hperm
  | began _ _ _ hone _ =>
    rw [hs'] at hone
    cases hone
  | left hact _ howed _ =>
    rw [hact, howed]
    exact List.Perm.refl _
  | taken entry _ _ hentry _ _ _ =>
    rw [hs] at hentry
    cases hentry

theorem waiting_of_shutDown {p : Pending} (hs : s.pending = p.shutDown) (i : Nat) :
    s.waiting i = [] := by
  rw [State.waiting, hs]
  rfl

/-- After the end no outcome is made up and none is lost. -/
theorem account_of_run (h : Run (step setup) start past s) {p : Pending}
    (hs : s.pending = p.shutDown) {t : State} (hlate : Run (step setup) s late t) (i : Nat) :
    (received (past ++ late) i ++ t.owed i).Perm (received past i ++ s.owed i) := by
  induction hlate with
  | start => rw [List.append_nil]
  | @snoc late u u' label shown hrun hstep ih =>
    have hledger := ledger_of_run (h.append hrun)
    have hchange := (change_of_step hledger.regular hstep).1
    have hturn := hchange.turn hledger.numbered (hledger.tokens.waiting_le_one i)
    have hfrozen := frozen_of_run h hs hrun
    rw [← List.append_assoc]
    exact (account_perm hturn (waiting_of_shutDown hfrozen i)
      (waiting_of_shutDown (hchange.frozen hfrozen) i)).trans ih

/-- The ending owes its outcome to every call that it takes off the table, and these had received
nothing and were owed nothing. -/
theorem owed_of_ends {entry : Entry} (ht : Tokens past s) (hopen : s.pending.shut = false)
    (h : Ends setup s ending s' shown) (hentry : entry ∈ s.pending.entries) :
    (received past entry.call ++ s'.owed entry.call).Perm [ending.outcome] := by
  have hone := ht.le_one entry.call
  have hpos := List.length_pos_of_mem (mem_waiting.mpr ⟨hentry, rfl⟩)
  rw [tokens] at hone
  have hreceived : received past entry.call = [] := List.eq_nil_of_length_eq_zero (by omega)
  have howed : s.owed entry.call = [] := List.eq_nil_of_length_eq_zero (by omega)
  obtain ⟨other, hwaiting⟩ := List.length_eq_one_iff.mp
    (show (s.waiting entry.call).length = 1 by omega)
  have hperm := owed_perm h.todo entry.call
  rw [ending.acts_of_open hopen, List.filterMap_append, outcomeFor_announce, outcomeFor_settleAll,
    hwaiting, howed] at hperm
  rw [hreceived]
  exact hperm

/-- A step leaves the outcome of a call alone that has one. -/
theorem Change.slot_after {i : Nat} {c : Call} {outcome : Outcome}
    (h : Change s (s.nextAct label) taken s') (ht : Tokens past s) (hs : Slots past s)
    (hi : s.calls[i]? = some c) (hslot : c.slot = some outcome) :
    ∃ c', s'.calls[i]? = some c' ∧ c'.slot = some outcome ∧
      (c.stage = .finished outcome → c'.stage = .finished outcome) := by
  have hsame : s'.calls = s.calls → ∃ c', s'.calls[i]? = some c' ∧ c'.slot = some outcome ∧
      (c.stage = .finished outcome → c'.stage = .finished outcome) := by
    intro hcalls
    exact ⟨c, by rw [hcalls, hi], hslot, id⟩
  have happend : ∀ d, s'.calls = s.calls ++ [d] → ∃ c', s'.calls[i]? = some c' ∧
      c'.slot = some outcome ∧ (c.stage = .finished outcome → c'.stage = .finished outcome) := by
    intro d hcalls
    have hlt := (List.getElem?_eq_some_iff.mp hi).1
    exact ⟨c, by rw [hcalls, List.getElem?_append_left hlt, hi], hslot, id⟩
  -- only a caller that waits comes further
  have hstage : ∀ (k : Nat) (d : Call) (stage : Stage), s.calls[k]? = some d → d.isOpen = true →
      s'.calls = s.calls.modify k (fun c => { c with stage := stage }) →
      ∃ c', s'.calls[i]? = some c' ∧ c'.slot = some outcome ∧
        (c.stage = .finished outcome → c'.stage = .finished outcome) := by
    intro k d stage hk hopen hcalls
    rw [hcalls, List.getElem?_modify, hi]
    by_cases hki : k = i
    · subst hki
      cases hk.symm.trans hi
      refine ⟨{ c with stage := stage }, by simp, hslot, ?_⟩
      intro hfinished
      rw [Call.isOpen, hfinished] at hopen
      cases hopen
    · exact ⟨c, by simp [hki], hslot, id⟩
  generalize hact : s.nextAct label = act at h
  cases h with
  | idle _ _ hc _ => exact hsame hc
  | began _ _ _ _ _ hc _ => exact happend _ hc
  | refused _ _ _ _ hc _ => exact happend _ hc
  | moved k d stage hk hopen _ _ hc _ => exact hstage k d stage hk hopen hc
  | collected k d o hk hopen _ _ hc _ => exact hstage k d _ hk hopen hc
  | left k d stage hk hopen _ _ _ hc _ => exact hstage k d stage hk hopen hc
  | answered _ _ _ _ hc _ => exact hsame hc
  | oversized _ _ _ _ _ hc _ => exact hsame hc
  | shut _ _ _ _ hc _ => exact hsame hc
  | performed act hperm _ hc =>
    cases act with
    | announce event => exact hsame hc
    | settle k o =>
      by_cases hki : k = i
      · -- a call that has received an outcome is not owed another one
        subst hki
        have hreceived := List.length_pos_of_mem (hs.ofSlot hi hslot)
        have howed := List.length_pos_of_mem
          (mem_owed.mpr (hperm.symm.subset List.mem_cons_self))
        have hone := ht.le_one k
        rw [tokens] at hone
        omega
      · refine ⟨c, ?_, hslot, id⟩
        rw [hc]
        show (s.calls.modify k _)[i]? = some c
        rw [List.getElem?_modify, hi]
        simp [hki]

theorem slot_of_run (h : Run (step setup) start past s) {t : State}
    (hlate : Run (step setup) s late t) {i : Nat} {c : Call} {outcome : Outcome}
    (hi : s.calls[i]? = some c) (hslot : c.slot = some outcome) :
    ∃ c', t.calls[i]? = some c' ∧ c'.slot = some outcome ∧
      (c.stage = .finished outcome → c'.stage = .finished outcome) := by
  induction hlate with
  | start => exact ⟨c, hi, hslot, id⟩
  | snoc hrun hstep ih =>
    obtain ⟨d, hd, hdslot, hdstage⟩ := ih
    have hledger := ledger_of_run (h.append hrun)
    obtain ⟨d', hd', hslot', hstage'⟩ :=
      (change_of_step hledger.regular hstep).1.slot_after hledger.tokens hledger.slots hd hdslot
    exact ⟨d', hd', hslot', fun hfinished => hstage' (hdstage hfinished)⟩

/-- A call stays a call, under its number. -/
theorem seq_of_run (h : Run (step setup) start past s) {t : State}
    (hlate : Run (step setup) s late t) {i : Nat} {c : Call} (hi : s.calls[i]? = some c) :
    ∃ c', t.calls[i]? = some c' ∧ c'.seq = c.seq := by
  induction hlate with
  | start => exact ⟨c, hi, rfl⟩
  | snoc hrun hstep ih =>
    obtain ⟨d, hd, hseq⟩ := ih
    have hregular := (ledger_of_run (h.append hrun)).regular
    obtain ⟨d', hd', hseq'⟩ := (change_of_step hregular hstep).1.shift.call_after hd
    exact ⟨d', hd', hseq'.trans hseq⟩

/-! ## Announcements -/

theorem ending_eq_closed_iff : s.ending setup label = some .closed ↔ label = .close := by
  cases label <;> simp [State.ending]

/-- Once a client has ended, a step adds no announcement, unless somebody closes the client. -/
theorem reports_of_step (hs : s.Regular) (hshut : s.pending.shut = true)
    (h : step setup s label = some (s', shown)) :
    (reports shown ++ s'.unreported).Perm
      (closings setup [⟨s, label, s', shown⟩] ++ s.unreported) := by
  cases hending : s.ending setup label with
  | none =>
    have hclosings : closings setup [⟨s, label, s', shown⟩] = [] := by
      have hne : label ≠ .close := fun heq => by simp [heq, State.ending] at hending
      simp [closings, hne]
    rw [hclosings]
    exact (continues_of_step h hending).reports
  | some ending =>
    have hends := ends_of_step hs h hending
    have hreports := unreported_perm hends.todo
    have hclosings : (ending.acts setup s).filterMap Act.report?
        = closings setup [⟨s, label, s', shown⟩] := by
      rw [ending.acts_of_shut hs hshut]
      by_cases hclosed : ending = .closed
      · have hlabel := ending_eq_closed_iff.mp (hclosed ▸ hending)
        simp [hclosed, closings, hlabel, Act.report?]
      · have hlabel : label ≠ .close := by
          intro heq
          rw [ending_eq_closed_iff.mpr heq] at hending
          exact hclosed (Option.some.inj hending).symm
        simp [hclosed, closings, hlabel]
    have hshown : reports shown = [] := by
      rw [hends.shown]
      rfl
    rw [hclosings] at hreports
    rw [hshown]
    exact hreports

/-- The first ending is to be announced, and nothing else was. -/
theorem reports_of_ends {m : Moment State Label Effect} (h : Opened past m.before)
    (hends : Ends setup m.before ending m.after m.shown) : reported (past ++ [m]) = [] ∧
      m.after.unreported.Perm (ending.reports setup m.before.pending.entries.length) := by
  obtain ⟨hpast, hbefore⟩ := List.append_eq_nil_iff.mp h.quiet
  constructor
  · rw [reported_append, reported_singleton, hpast, hends.shown]
    rfl
  · have hreports := unreported_perm hends.todo
    have hown : ((ending.reports setup m.before.pending.entries.length).map
        Act.announce).filterMap Act.report?
        = ending.reports setup m.before.pending.entries.length := by
      cases ending <;> rfl
    rwa [ending.acts_of_open h.shut, List.filterMap_append, hown, report?_settleAll,
      hbefore, List.append_nil, List.append_nil] at hreports

theorem reports_of_run (h : Run (step setup) start past s) {p : Pending}
    (hs : s.pending = p.shutDown) {t : State} (hlate : Run (step setup) s late t) :
    (reported late ++ t.unreported).Perm (closings setup late ++ s.unreported) := by
  induction hlate with
  | start => exact List.Perm.refl _
  | @snoc late u u' label shown hrun hstep ih =>
    have hshut : u.pending.shut = true := by
      rw [frozen_of_run h hs hrun]
      rfl
    have hregular := (ledger_of_run (h.append hrun)).regular
    have hreports := reports_of_step hregular hshut hstep
    have hclosings : closings setup (late ++ [⟨u, label, u', shown⟩])
        = closings setup late ++ closings setup [⟨u, label, u', shown⟩] := by
      rw [closings, List.filter_append, List.map_append]
      rfl
    rw [reported_append, reported_singleton, hclosings, List.append_assoc, List.append_assoc]
    refine (hreports.append_left _).trans ((List.perm_append_comm_assoc _ _ _).trans ?_)
    exact (ih.append_left _).trans (List.perm_append_comm_assoc _ _ _)

/-! ## Runs -/

theorem focused_of_run (h : Run (step setup) start past s) : s.Focused := by
  induction h with
  | start => exact fun _ _ hk => by cases hk
  | @snoc past s s' label shown hrun hstep ih =>
    cases hending : s.ending setup label with
    | none => exact (continues_of_step hstep hending).focused ih
    | some ending =>
      exact (ends_of_step (ledger_of_run hrun).regular hstep hending).focused ih

/-- A caller that no longer waits has its outcome, or has left. -/
theorem gone_of_closed (hs : Slots past s) {i : Nat} {c : Call} (hi : s.calls[i]? = some c)
    (hclosed : c.isOpen = false) : (∃ outcome, c.slot = some outcome) ∨ c.IsGone := by
  cases hstage : c.stage with
  | finished outcome => exact Or.inl ⟨outcome, hs.ofFinished hi hstage⟩
  | abandoned => exact Or.inr (Or.inl hstage)
  | failed cause => exact Or.inr (Or.inr ⟨cause, hstage⟩)
  | registered =>
    rw [Call.isOpen, hstage] at hclosed
    cases hclosed
  | queueing frame =>
    rw [Call.isOpen, hstage] at hclosed
    cases hclosed
  | waiting =>
    rw [Call.isOpen, hstage] at hclosed
    cases hclosed

/-- Once the table is empty, whoever still waits has an outcome or is owed one. -/
theorem settled_of_empty (h : Ledger setup past s) (hnone : s.pending.entries = []) {i : Nat}
    {c : Call} (hi : s.calls[i]? = some c) :
    c.slot.isSome = true ∨ c.IsGone ∨ ∃ p outcome, Act.settle i outcome ∈ s.duty p := by
  cases hopen : c.isOpen with
  | false =>
    rcases gone_of_closed h.slots hi hopen with ⟨outcome, hslot⟩ | hgone
    · rw [hslot]
      exact Or.inl rfl
    · exact Or.inr (Or.inl hgone)
  | true =>
    rcases h.tokens.place hi hopen with ⟨outcome, hin⟩ | ⟨entry, hentry, _⟩ | ⟨outcome, howed⟩
    · rw [h.slots.ofReceived hi hopen hin]
      exact Or.inl rfl
    · rw [hnone] at hentry
      cases hentry
    · obtain ⟨p, hp⟩ := mem_todo_iff.mp howed
      exact Or.inr (Or.inr ⟨p, outcome, hp⟩)

/-- A call that has received one outcome shows it, unless its caller has left. -/
theorem slot_of_received (hs : Slots past s) {i : Nat} {c : Call} {outcome : Outcome}
    (hi : s.calls[i]? = some c) (hreceived : received past i = [outcome]) :
    c.slot = some outcome ∨ c.IsGone := by
  cases hopen : c.isOpen with
  | true =>
    refine Or.inl (hs.ofReceived hi hopen ?_)
    rw [hreceived]
    exact List.mem_singleton_self _
  | false =>
    rcases gone_of_closed hs hi hopen with ⟨other, hslot⟩ | hgone
    · have hin := hs.ofSlot hi hslot
      rw [hreceived, List.mem_singleton] at hin
      exact Or.inl (hin ▸ hslot)
    · exact Or.inr hgone

/-- A table that is shut down refuses a call. -/
theorem refused_of_step (hshut : s.pending.shut = true) {method : String} {payload : Bytes}
    {keepsClient : Bool} (h : step setup s (.call method payload keepsClient) = some (s', shown)) :
    s' = { s with
      calls := s.calls ++ [⟨method, payload, keepsClient, none, .failed .closed, none⟩] } ∧
    shown = [] := by
  cases move_of_step h with
  | began _ _ _ hopen =>
    rw [hshut] at hopen
    cases hopen
  | refused _ _ _ _ => exact ⟨rfl, rfl⟩

/-- A connection that fails after the end is of no interest. -/
theorem unheard_of_step (hs : s.Regular) {p : Pending} (hp : s.pending = p.shutDown)
    {cause : LinkError} (h : step setup s label = some (s', shown))
    (hfails : s.failure setup label = some cause) :
    s'.pending = s.pending ∧ s'.calls = s.calls ∧ s'.todo.Perm s.todo ∧ shown = [] := by
  have hending : s.ending setup label = some (.failed cause) := by
    cases label with
    | close => cases hfails
    | drop => cases hfails
    | _ => exact Option.map_eq_some_iff.mpr ⟨cause, hfails, rfl⟩
  have hshut : s.pending.shut = true := by
    rw [hp]
    rfl
  have hends := ends_of_step hs h hending
  have hacts : (Ending.failed cause).acts setup s = [] := Ending.acts_of_shut _ hs hshut
  refine ⟨?_, hends.calls, ?_, hends.shown⟩
  · rw [hends.pending, hp]
    rfl
  · have htodo := hends.todo
    rwa [hacts] at htodo

/-- **A client ends once, and leaves nobody waiting**: whoever ends it first, and whatever the others
do before and afterwards. -/
theorem concluded_of_run (h : Run (step setup) start (early ++ m :: late) s)
    (hnone : ∀ n ∈ early, n.before.ending setup n.label = none)
    (hending : m.before.ending setup m.label = some ending) :
    Concluded setup early m late s ending := by
  obtain ⟨hearly, hstep⟩ := h.split
  have hopened := opened_of_run hearly hnone
  have hledger := ledger_of_run hearly
  have hends := ends_of_step hledger.regular hstep hending
  have hbase : Run (step setup) start (early ++ [m]) m.after := hearly.snoc hstep
  have hlate := h.after
  have hend := ledger_of_run h
  have hfrozen := frozen_of_run hbase hends.pending hlate
  -- what happens later happens to a table that is shut down
  have hafter : ∀ n ∈ late, n.before.Regular ∧ n.before.pending = m.before.pending.shutDown ∧
      step setup n.before n.label = some (n.after, n.shown) := by
    intro n hn
    obtain ⟨between, rest, rfl⟩ := List.append_of_mem hn
    rw [← List.cons_append, ← List.append_assoc] at h
    obtain ⟨hbetween, hnstep⟩ := h.split
    exact ⟨(ledger_of_run hbetween).regular, frozen_of_run hbase hends.pending hbetween.after,
      hnstep⟩
  have hsplit : early ++ m :: late = (early ++ [m]) ++ late := by simp
  refine ⟨hopened.shut, hfrozen, ?_, ?_, ?_, fun p act rest hduty => able_of_duty setup hduty, ?_,
    ?_, ?_, ?_⟩
  · intro i c hi _
    obtain ⟨c', hi', _⟩ := seq_of_run hbase hlate (hends.calls ▸ hi)
    have hempty : s.pending.entries = [] := by
      rw [hfrozen]
      rfl
    exact ⟨c', hi', settled_of_empty hend hempty hi'⟩
  · intro entry hentry
    obtain ⟨c, hc, hseq⟩ := hledger.numbered.ofEntry hentry
    obtain ⟨c', hc', hseq'⟩ := seq_of_run hbase hlate (hends.calls ▸ hc)
    refine ⟨c', hc', hseq'.trans hseq, ?_⟩
    have howed := owed_of_ends hledger.tokens hopened.shut hends hentry
    have haccount := account_of_run hbase hends.pending hlate entry.call
    have hgiven : given entry.call (m.before.nextAct m.label) = [] := by
      rw [nextAct_of_ending hending]
      rfl
    rw [received_snoc, hgiven, List.append_nil, ← hsplit] at haccount
    have hone := List.perm_singleton.mp (haccount.trans howed)
    rcases List.append_eq_singleton_iff.mp hone with ⟨hreceived, howed⟩ | ⟨hreceived, _⟩
    · obtain ⟨p, hp⟩ := mem_todo_iff.mp (mem_owed.mp (howed ▸ List.mem_singleton_self _))
      exact Or.inr ⟨hreceived, p, hp⟩
    · exact Or.inl ⟨hreceived, slot_of_received hend.slots hc' hreceived⟩
  · intro n hn p hp
    obtain ⟨before, rest, hpast⟩ := List.append_of_mem hn
    rw [hpast] at h
    obtain ⟨hbefore, hnstep⟩ := h.split
    exact dutiful_of_step (ledger_of_run hbefore).regular (focused_of_run hbefore) hnstep hp
  · intro n hn method payload keepsClient hlabel
    obtain ⟨_, hp, hnstep⟩ := hafter n hn
    rw [hlabel] at hnstep
    exact refused_of_step (by rw [hp]; rfl) hnstep
  · intro n hn cause hfails
    obtain ⟨hregular, hp, hnstep⟩ := hafter n hn
    exact unheard_of_step hregular hp hnstep hfails
  · intro n hn i c outcome hi hslot
    obtain ⟨before, rest, hpast⟩ := List.append_of_mem hn
    rw [hpast] at h
    obtain ⟨hbefore, hnstep⟩ := h.split
    exact slot_of_run (hbefore.snoc hnstep) h.after hi hslot
  · have hreports := reports_of_run hbase hends.pending hlate
    have hnow := reports_of_ends hopened hends
    rw [hsplit, reported_append, hnow.1, List.nil_append]
    exact hreports.trans ((hnow.2.append_left _).trans List.perm_append_comm)

/-- Two calls are on their way when the connection breaks.  Before the reader has settled them, the
client is closed, a third call is tried, the writer breaks too and the second caller gives up; in the
end the last user lets go of the client. -/
def lossLabels : List Label :=
  [.call "A.B" [1] true, .frame 0, .submit 0, .dequeue, .call "A.C" [] true, .frame 1, .submit 1,
    .failReceive (.described "reset"), .close, .call "A.D" [] true, .readerAct, .failWrite .closed,
    .abandon 1, .readerAct, .collect 0, .readerAct, .closerAct 0, .abortReader 0, .endOutput,
    .retire, .submitClose 0, .release, .drop]

theorem concluded_after_loss : ∃ early m late s,
    Run (step ⟨"peer", 100⟩) start (early ++ m :: late) s ∧
      (∀ n ∈ early, n.before.ending ⟨"peer", 100⟩ n.label = none) ∧
      m.before.ending ⟨"peer", 100⟩ m.label = some (.failed (.described "reset")) ∧
      received (early ++ m :: late) 0 = [.error (.lost "reset")] ∧
      reported (early ++ m :: late)
        = [.clientShutdown "peer" 2 (some "reset"), .clientShutdown "peer" 0 none] ∧
      Concluded ⟨"peer", 100⟩ early m late s (.failed (.described "reset")) := by
  -- the eighth moment is the one at which the connection breaks
  have hruns : (replay (step ⟨"peer", 100⟩) start lossLabels).any (fun r =>
      (∀ n ∈ r.1.take 7, n.before.ending ⟨"peer", 100⟩ n.label = none) ∧
      (∃ m ∈ (r.1.drop 7).head?, m.before.ending ⟨"peer", 100⟩ m.label
        = some (.failed (.described "reset"))) ∧
      received r.1 0 = [.error (.lost "reset")] ∧
      reported r.1
        = [.clientShutdown "peer" 2 (some "reset"), .clientShutdown "peer" 0 none]) = true := by
    decide +kernel
  obtain ⟨⟨past, s⟩, hreplay, hfacts⟩ := (Option.any_eq_true _ _).mp hruns
  obtain ⟨hnone, ⟨m, hm, hending⟩, hreceived, hreported⟩ := of_decide_eq_true hfacts
  have hrun := Run.of_replay hreplay
  obtain ⟨late, hdrop⟩ := List.head?_eq_some_iff.mp hm
  rw [← List.take_append_drop 7 past, hdrop] at hrun hreceived hreported
  exact ⟨past.take 7, m, late, s, hrun, hnone, hending, hreceived, hreported,
    concluded_of_run hrun hnone hending⟩

end RemoteCall.Client
