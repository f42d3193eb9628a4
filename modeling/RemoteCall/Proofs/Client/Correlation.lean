import RemoteCall.Proofs.Client.Tokens

/-!
# Calls get their own responses

The peer may send anything: responses to calls that were never made, the same response twice, a
response to a call that was given up.  `Correlated` is what a client guarantees all the same, in
every run: a call receives at most one outcome; what it receives is a failure of this side, or
stands in the first envelope that came under its number while it was registered; an envelope on
which nobody waits is reported and changes nothing; and nobody waits for an outcome that will not
come.

The counting is done in `Tokens`.  Here two more facts go along with a run: where every outcome
comes from (`Traced`), and that the slot of a call shows what the call received (`Slots`).
-/

namespace RemoteCall.Client

variable {setup : Setup} {s s' : State} {act : Option Act} {taken : Option Envelope}
  {past : List (Moment State Label Effect)} {label : Label} {shown : List Effect}

/-! ## What correlation means -/

/-- The outcome is that of the first envelope that arrived under the number of call `i` while the
call was registered: its payload, or the failure that its error text tells. -/
def IsFirstAnswer (setup : Setup) (past : List (Moment State Label Effect)) (s : State) (i : Nat)
    (outcome : Outcome) : Prop :=
  ∃ (early : List (Moment State Label Effect)) (m : Moment State Label Effect)
    (late : List (Moment State Label Effect)) (e : Envelope) (c : Call),
    past = early ++ m :: late ∧
    m.before.delivery setup m.label = some e ∧
    s.calls[i]? = some c ∧ c.seq = some e.header.seq.toNat ∧
    m.before.pending.find e.header.seq.toNat = some ⟨e.header.seq.toNat, i⟩ ∧
    (∀ m' ∈ early, ∀ e', m'.before.delivery setup m'.label = some e' →
      e'.header.seq = e.header.seq → m'.before.pending.find e'.header.seq.toNat = none) ∧
    outcome = if e.header.error = "" then .ok e.payload
      else .error (.ofResponse e.header.kind e.header.error)

/-- What a client guarantees to its callers after every run, whatever the peer sent. -/
structure Correlated (setup : Setup) (past : List (Moment State Label Effect)) (s : State) :
    Prop where
  /-- A call receives at most one outcome. -/
  once : ∀ i, (received past i).length ≤ 1
  /-- What its slot shows, and what its caller took out of the slot, is what it received. -/
  visible : ∀ (i : Nat) (c : Call) (outcome : Outcome), s.calls[i]? = some c →
    c.slot = some outcome ∨ c.stage = .finished outcome → received past i = [outcome]
  /-- While its caller waits, the slot shows all that it received. -/
  complete : ∀ (i : Nat) (c : Call), s.calls[i]? = some c → c.isOpen = true →
    received past i = c.slot.toList
  /-- An outcome that this side did not make up is that of the first answer. -/
  answered : ∀ i, ∀ outcome ∈ received past i, isLocal outcome = false →
    IsFirstAnswer setup past s i outcome
  /-- An envelope under a number on which nobody waits changes nothing and is reported. -/
  strays : ∀ m ∈ past, ∀ e, m.before.delivery setup m.label = some e →
    m.before.pending.find e.header.seq.toNat = none →
    m.after.calls = m.before.calls ∧ m.after.pending = m.before.pending ∧
      m.after.todo = m.before.todo ∧ m.shown = [.event (.discarded e.header.seq)]
  /-- Whoever waits has the outcome, or is on the table, or some party is bound to settle the
  call. -/
  kept : ∀ (i : Nat) (c : Call), s.calls[i]? = some c → c.isOpen = true →
    c.slot.isSome = true ∨ (∃ entry ∈ s.pending.entries, entry.call = i) ∨
      ∃ outcome, Act.settle i outcome ∈ s.todo

/-! ## Strays -/

theorem step_receive_stray {e : Envelope} (h : step setup s label = some (s', shown))
    (hdelivery : s.delivery setup label = some e)
    (hfind : s.pending.find e.header.seq.toNat = none) :
    s'.calls = s.calls ∧ s'.pending = s.pending ∧ s'.todo = s.todo ∧
      shown = [.event (.discarded e.header.seq)] := by
  cases move_of_step h with
  | stray _ _ _ _ hscan hdecode _ =>
    simp only [State.delivery, hscan, hdecode, Except.toOption] at hdelivery
    cases hdelivery
    exact ⟨rfl, rfl, rfl, rfl⟩
  | answered _ _ _ _ _ hscan hdecode hfound =>
    simp only [State.delivery, hscan, hdecode, Except.toOption] at hdelivery
    cases hdelivery
    rw [hfind] at hfound
    cases hfound
  | badFrame _ _ _ _ hscan hdecode =>
    simp only [State.delivery, hscan, hdecode, Except.toOption] at hdelivery
    cases hdelivery
  | tooLarge _ _ _ hscan =>
    simp only [State.delivery, hscan] at hdelivery
    cases hdelivery
  | noMore _ hscan _ =>
    simp only [State.delivery, hscan] at hdelivery
    cases hdelivery
  | _ => cases hdelivery

/-! ## Where outcomes come from -/

/-- Where the outcomes come from that calls have received or are owed. -/
structure Traced (setup : Setup) (past : List (Moment State Label Effect)) (s : State) :
    Prop where
  /-- An envelope that met a waiting call has cost the call its entry. -/
  spent : ∀ m ∈ past, ∀ e entry, m.before.delivery setup m.label = some e →
    m.before.pending.find e.header.seq.toNat = some entry →
    ∃ c, s.calls[entry.call]? = some c ∧ c.seq = some entry.seq ∧
      1 ≤ (received past entry.call).length + (s.owed entry.call).length
  origin : ∀ {i : Nat} {outcome : Outcome}, outcome ∈ received past i ∨ outcome ∈ s.owed i →
    isLocal outcome = true ∨ IsFirstAnswer setup past s i outcome

theorem traced_start : Traced setup [] start where
  spent m hm := by cases hm
  origin h := by
    rcases h with h | h
    · cases h
    · cases h

theorem IsFirstAnswer.step {i : Nat} {outcome : Outcome} (hc : Shift s s')
    (h : IsFirstAnswer setup past s i outcome) (m : Moment State Label Effect) :
    IsFirstAnswer setup (past ++ [m]) s' i outcome := by
  obtain ⟨early, n, late, e, c, rfl, hdelivery, hi, hseq, hfind, hfirst, hout⟩ := h
  obtain ⟨c', hc', hseq'⟩ := hc.call_after hi
  refine ⟨early, n, late ++ [m], e, c', ?_, hdelivery, hc', hseq'.trans hseq, hfind, hfirst, hout⟩
  rw [List.append_assoc, List.cons_append]

/-- A call that met an envelope is owed the outcome. -/
theorem Change.owed_of_taken {e : Envelope} {entry : Entry} (h : Change s act (some e) s')
    (hfind : s.pending.find e.header.seq.toNat = some entry) :
    1 ≤ (s'.owed entry.call).length := by
  cases h with
  | idle hnone _ _ _ =>
    rw [hnone e rfl] at hfind
    cases hfind
  | answered _ entry' hfind' _ _ ht =>
    cases hfind'.symm.trans hfind
    have howed := (@owed_perm s s' [.settle entry.call _] ht entry.call).length_eq
    simp only [List.filterMap_cons, Act.outcomeFor_self, List.filterMap_nil,
      List.length_append, List.length_singleton] at howed
    omega

/-- What a call has received and is owed only becomes more. -/
theorem account_le {i : Nat} (h : Turn s s' (s.nextAct label) taken i) :
    (received past i).length + (s.owed i).length
      ≤ (received (past ++ [⟨s, label, s', shown⟩]) i).length + (s'.owed i).length := by
  have hnone : (given i none).length = 0 := rfl
  rw [received_snoc, List.length_append]
  cases h with
  | kept _ hperm =>
    have hlen := hperm.length_eq
    rw [List.length_append] at hlen
    omega
  | began hact _ _ _ howed =>
    rw [howed]
    omega
  | left hact _ howed _ =>
    rw [howed]
    omega
  | taken _ _ hact _ _ hperm _ =>
    rw [hperm.length_eq, List.length_cons]
    omega

/-- What envelopes have cost stays lost. -/
theorem spent_step (hc : Change s (s.nextAct label) (s.delivery setup label) s')
    (hs : Numbered s) (hturn : ∀ i, Turn s s' (s.nextAct label) (s.delivery setup label) i)
    (h : Traced setup past s) :
    ∀ m ∈ past ++ [⟨s, label, s', shown⟩], ∀ e entry, m.before.delivery setup m.label = some e →
      m.before.pending.find e.header.seq.toNat = some entry →
      ∃ c, s'.calls[entry.call]? = some c ∧ c.seq = some entry.seq ∧
        1 ≤ (received (past ++ [⟨s, label, s', shown⟩]) entry.call).length
          + (s'.owed entry.call).length := by
  intro m hm e entry hdelivery hfind
  rcases List.mem_append.mp hm with hm | hm
  · obtain ⟨c, hi, hseq, hpos⟩ := h.spent m hm e entry hdelivery hfind
    obtain ⟨c', hi', hseq'⟩ := hc.shift.call_after hi
    exact ⟨c', hi', hseq'.trans hseq, Nat.le_trans hpos (account_le (hturn entry.call))⟩
  · cases List.mem_singleton.mp hm
    obtain ⟨hmem, _⟩ := mem_entries_of_find hfind
    obtain ⟨c, hi, hseq⟩ := hs.ofEntry hmem
    obtain ⟨c', hi', hseq'⟩ := hc.shift.call_after hi
    have howed := (hdelivery ▸ hc).owed_of_taken hfind
    exact ⟨c', hi', hseq'.trans hseq, by omega⟩

/-- An envelope that finds the entry of a call is the first under the number of that call. -/
theorem isFirstAnswer_of_taken {i : Nat} {e : Envelope} {entry : Entry}
    (hc : Change s (s.nextAct label) (s.delivery setup label) s') (hs : Numbered s)
    (ht : Tokens past s) (h : Traced setup past s) (hwaiting : s.waiting i = [entry])
    (hdelivery : s.delivery setup label = some e)
    (hfind : s.pending.find e.header.seq.toNat = some entry) :
    IsFirstAnswer setup (past ++ [⟨s, label, s', shown⟩]) s' i (State.outcomeOf e) := by
  obtain ⟨hmem, hseq⟩ := mem_entries_of_find hfind
  have hentry : entry.call = i := by
    have hin : entry ∈ s.waiting i := hwaiting ▸ List.mem_singleton_self _
    exact (mem_waiting.mp hin).2
  obtain ⟨c, hi, hcseq⟩ := hs.ofEntry hmem
  obtain ⟨c', hi', hcseq'⟩ := hc.shift.call_after hi
  rw [hentry] at hi hi'
  rw [hseq] at hcseq
  refine ⟨past, _, [], e, c', rfl, hdelivery, hi', hcseq'.trans hcseq, ?_, ?_, ?_⟩
  · rw [hfind]
    cases entry
    simp only at hseq hentry
    rw [hseq, hentry]
  · -- an earlier one would have cost the call its entry
    intro m hm e₀ hdelivery₀ hseq₀
    cases hfind₀ : m.before.pending.find e₀.header.seq.toNat with
    | none => rfl
    | some entry₀ =>
      obtain ⟨d, hd, hdseq, hpos⟩ := h.spent m hm e₀ entry₀ hdelivery₀ hfind₀
      rw [(mem_entries_of_find hfind₀).2, hseq₀] at hdseq
      rw [hs.inj hd hi hdseq hcseq] at hpos
      have hone := ht.le_one i
      rw [tokens, hwaiting, List.length_singleton] at hone
      omega
  · rw [State.outcomeOf, Header.isError]
    by_cases herror : e.header.error = ""
    · simp [herror]
    · simp [herror]

/-- **Every outcome is traced.** -/
theorem traced_step (hc : Change s (s.nextAct label) (s.delivery setup label) s')
    (hs : Numbered s) (ht : Tokens past s) (h : Traced setup past s) :
    Traced setup (past ++ [⟨s, label, s', shown⟩]) s' := by
  have hturn : ∀ i, Turn s s' (s.nextAct label) (s.delivery setup label) i :=
    fun i => hc.turn hs (ht.waiting_le_one i)
  refine ⟨spent_step hc hs hturn h, ?_⟩
  intro i outcome hin
  rw [received_snoc, List.mem_append] at hin
  have hold : outcome ∈ received past i ∨ outcome ∈ s.owed i →
      isLocal outcome = true ∨
        IsFirstAnswer setup (past ++ [⟨s, label, s', shown⟩]) s' i outcome := by
    intro hmem
    exact (h.origin hmem).imp_right fun hfirst => hfirst.step hc.shift _
  -- only a call whose entry is taken can be owed anything that it was not owed before
  cases hturn i with
  | kept _ hperm =>
    apply hold
    rcases hin with (hin | hin) | hin
    · exact Or.inl hin
    · exact Or.inr (hperm.subset (List.mem_append_left _ hin))
    · exact Or.inr (hperm.subset (List.mem_append_right _ hin))
  | began hact _ _ _ howed =>
    apply hold
    rw [hact, howed] at hin
    rcases hin with (hin | hin) | hin
    · exact Or.inl hin
    · cases hin
    · exact Or.inr hin
  | left hact _ howed _ =>
    apply hold
    rw [hact, howed] at hin
    rcases hin with (hin | hin) | hin
    · exact Or.inl hin
    · cases hin
    · exact Or.inr hin
  | taken entry new hact hwaiting _ hperm horigin =>
    rw [hact] at hin
    rcases hin with (hin | hin) | hin
    · exact hold (Or.inl hin)
    · cases hin
    · rcases List.mem_cons.mp (hperm.subset hin) with rfl | hin
      · rcases horigin with hlocal | ⟨e, hdelivery, hfind, rfl⟩
        · exact Or.inl hlocal
        · exact Or.inr (isFirstAnswer_of_taken hc hs ht h hwaiting hdelivery hfind)
      · exact hold (Or.inr hin)

/-! ## Slots -/

/-- The slots of calls show what the calls received. -/
structure Slots (past : List (Moment State Label Effect)) (s : State) : Prop where
  ofSlot : ∀ {i : Nat} {c : Call} {outcome : Outcome}, s.calls[i]? = some c →
    c.slot = some outcome → outcome ∈ received past i
  ofReceived : ∀ {i : Nat} {c : Call} {outcome : Outcome}, s.calls[i]? = some c →
    c.isOpen = true → outcome ∈ received past i → c.slot = some outcome
  ofFinished : ∀ {i : Nat} {c : Call} {outcome : Outcome}, s.calls[i]? = some c →
    c.stage = .finished outcome → c.slot = some outcome

theorem slots_start : Slots [] start where
  ofSlot h := by cases h
  ofReceived h := by cases h
  ofFinished h := by cases h

/-- The step leaves the slots alone, and a caller is done only with what its slot shows. -/
def KeepsSlots (s s' : State) : Prop :=
  ∀ (i : Nat) (c' : Call), s'.calls[i]? = some c' →
    (i = s.calls.length ∧ c'.slot = none ∧ ∀ outcome, c'.stage ≠ .finished outcome) ∨
    ∃ c, s.calls[i]? = some c ∧ c'.slot = c.slot ∧ (c'.isOpen = true → c.isOpen = true) ∧
      ∀ outcome, c'.stage = .finished outcome →
        c.stage = .finished outcome ∨ c.slot = some outcome

theorem keepsSlots_of_eq (h : s'.calls = s.calls) : KeepsSlots s s' := by
  intro i c' hi
  exact Or.inr ⟨c', h ▸ hi, rfl, id, fun _ => Or.inl⟩

theorem keepsSlots_of_append {d : Call} (h : s'.calls = s.calls ++ [d]) (hslot : d.slot = none)
    (hstage : ∀ outcome, d.stage ≠ .finished outcome) : KeepsSlots s s' := by
  intro i c' hi
  rw [h] at hi
  rcases getElem?_append_singleton hi with hi | ⟨rfl, rfl⟩
  · exact Or.inr ⟨c', hi, rfl, id, fun _ => Or.inl⟩
  · exact Or.inl ⟨rfl, hslot, hstage⟩

theorem keepsSlots_of_stage {k : Nat} {d : Call} {stage : Stage} (hk : s.calls[k]? = some d)
    (hopen : d.isOpen = true) (hfin : ∀ outcome, stage = .finished outcome → d.slot = some outcome)
    (h : s'.calls = s.calls.modify k fun c => { c with stage := stage }) : KeepsSlots s s' := by
  intro i c' hi
  rw [h] at hi
  obtain ⟨c, hc, rfl⟩ := getElem?_modify_eq_some hi
  refine Or.inr ⟨c, hc, ?_⟩
  by_cases hki : k = i
  · subst hki
    cases hk.symm.trans hc
    rw [if_pos rfl]
    exact ⟨rfl, fun _ => hopen, fun outcome heq => Or.inr (hfin outcome heq)⟩
  · rw [if_neg hki]
    exact ⟨rfl, id, fun _ => Or.inl⟩

/-- Steps that give no outcome. -/
theorem slots_of_same {past' : List (Moment State Label Effect)} (ht : Tokens past s)
    (h : Slots past s) (hreceived : ∀ i, received past' i = received past i)
    (hcalls : KeepsSlots s s') : Slots past' s' := by
  refine ⟨?_, ?_, ?_⟩
  · intro i c' outcome hi hslot
    rw [hreceived]
    rcases hcalls i c' hi with ⟨_, hnone, _⟩ | ⟨c, hc, hsame, _, _⟩
    · rw [hnone] at hslot
      cases hslot
    · exact h.ofSlot hc (hsame ▸ hslot)
  · intro i c' outcome hi hopen hin
    rw [hreceived] at hin
    rcases hcalls i c' hi with ⟨hnew, _, _⟩ | ⟨c, hc, hsame, hback, _⟩
    · -- a call that did not exist has not received anything
      have hzero := ht.ofNew (Nat.le_of_eq hnew.symm)
      have hpos := List.length_pos_of_mem hin
      rw [tokens] at hzero
      omega
    · rw [hsame]
      exact h.ofReceived hc (hback hopen) hin
  · intro i c' outcome hi hfin
    rcases hcalls i c' hi with ⟨_, _, hnot⟩ | ⟨c, hc, hsame, _, hback⟩
    · exact absurd hfin (hnot outcome)
    · rw [hsame]
      rcases hback outcome hfin with hold | hslot
      · exact h.ofFinished hc hold
      · exact hslot

/-- A call after an outcome was given: only the slot of the call that got it is another one. -/
theorem getElem?_settle {i j : Nat} {outcome : Outcome} {c' : Call}
    (h : (s.settle i outcome).calls[j]? = some c') : ∃ c, s.calls[j]? = some c ∧
      c' = if i = j ∧ c.isOpen = true then { c with slot := some outcome } else c := by
  obtain ⟨c, hc, rfl⟩ := getElem?_modify_eq_some h
  refine ⟨c, hc, ?_⟩
  by_cases hij : i = j
  · simp [hij]
  · simp [hij]

/-- The step that gives an outcome. -/
theorem slots_of_settle {i : Nat} {outcome : Outcome}
    (hact : s.nextAct label = some (.settle i outcome)) (howed : outcome ∈ s.owed i)
    (hcalls : s'.calls = (s.settle i outcome).calls) (ht : Tokens past s) (h : Slots past s) :
    Slots (past ++ [⟨s, label, s', shown⟩]) s' := by
  have hreceived : ∀ j, received (past ++ [⟨s, label, s', shown⟩]) j
      = received past j ++ if i = j then [outcome] else [] := by
    intro j
    rw [received_snoc, hact]
    by_cases hj : i = j
    · simp [given, hj]
    · simp [given, Act.outcomeFor_of_ne hj, hj]
  -- the one token of the call is the outcome that it is owed
  have hnone : received past i = [] := by
    have hone := ht.le_one i
    have hpos := List.length_pos_of_mem howed
    rw [tokens] at hone
    exact List.eq_nil_of_length_eq_zero (by omega)
  refine ⟨?_, ?_, ?_⟩
  · intro j c' o hj hslot
    obtain ⟨c, hc, rfl⟩ := getElem?_settle (hcalls ▸ hj)
    rw [hreceived, List.mem_append]
    split at hslot
    · next hset =>
      cases hslot
      rw [if_pos hset.1]
      exact Or.inr (List.mem_singleton_self _)
    · exact Or.inl (h.ofSlot hc hslot)
  · intro j c' o hj hopen hin
    obtain ⟨c, hc, rfl⟩ := getElem?_settle (hcalls ▸ hj)
    rw [hreceived, List.mem_append] at hin
    by_cases hij : i = j
    · have hopen' : c.isOpen = true := by
        split at hopen
        · next hset => exact hset.2
        · exact hopen
      rw [if_pos hij, ← hij, hnone] at hin
      rw [if_pos ⟨hij, hopen'⟩]
      rcases hin with hin | hin
      · cases hin
      · rw [List.mem_singleton.mp hin]
    · rw [if_neg hij] at hin
      rw [if_neg fun hset => hij hset.1] at hopen ⊢
      rcases hin with hin | hin
      · exact h.ofReceived hc hopen hin
      · cases hin
  · intro j c' o hj hfin
    obtain ⟨c, hc, rfl⟩ := getElem?_settle (hcalls ▸ hj)
    split at hfin
    · next hset =>
      -- a finished call is not open
      have hclosed : c.isOpen = false := by
        rw [Call.isOpen]
        simp only at hfin
        rw [hfin]
      rw [hclosed] at hset
      cases hset.2
    · next hset =>
      rw [if_neg hset]
      exact h.ofFinished hc hfin

/-- **Slots show what was received.** -/
theorem slots_step (hc : Change s (s.nextAct label) taken s') (ht : Tokens past s)
    (h : Slots past s) : Slots (past ++ [⟨s, label, s', shown⟩]) s' := by
  generalize hact : s.nextAct label = act at hc
  have hreceived : act = none → ∀ i,
      received (past ++ [⟨s, label, s', shown⟩]) i = received past i := by
    intro hnone i
    rw [received_snoc, hact, hnone]
    exact List.append_nil _
  cases hc with
  | idle _ _ hcalls _ => exact slots_of_same ht h (hreceived rfl) (keepsSlots_of_eq hcalls)
  | began _ _ _ _ _ hcalls _ =>
    exact slots_of_same ht h (hreceived rfl) (keepsSlots_of_append hcalls rfl
      fun _ heq => by cases heq)
  | refused _ _ _ _ hcalls _ =>
    exact slots_of_same ht h (hreceived rfl) (keepsSlots_of_append hcalls rfl
      fun _ heq => by cases heq)
  | moved k d stage hk hopen hopen' _ hcalls _ =>
    refine slots_of_same ht h (hreceived rfl)
      (keepsSlots_of_stage hk hopen (fun outcome heq => ?_) hcalls)
    rw [heq] at hopen'
    cases hopen'
  | collected k d outcome hk hopen hslot _ hcalls _ =>
    refine slots_of_same ht h (hreceived rfl)
      (keepsSlots_of_stage hk hopen (fun o heq => ?_) hcalls)
    cases heq
    exact hslot
  | left k d stage hk hopen _ hfin _ hcalls _ =>
    exact slots_of_same ht h (hreceived rfl)
      (keepsSlots_of_stage hk hopen (fun outcome heq => absurd heq (hfin outcome)) hcalls)
  | answered _ _ _ _ hcalls _ => exact slots_of_same ht h (hreceived rfl) (keepsSlots_of_eq hcalls)
  | oversized _ _ _ _ _ hcalls _ => exact slots_of_same ht h (hreceived rfl) (keepsSlots_of_eq hcalls)
  | shut _ _ _ _ hcalls _ => exact slots_of_same ht h (hreceived rfl) (keepsSlots_of_eq hcalls)
  | performed act hperm _ hcalls =>
    cases act with
    | announce event =>
      refine slots_of_same ht h (fun i => ?_) (keepsSlots_of_eq hcalls)
      rw [received_snoc, hact]
      exact List.append_nil _
    | settle i outcome =>
      refine slots_of_settle hact ?_ hcalls ht h
      exact mem_owed.mpr (hperm.symm.subset List.mem_cons_self)

/-! ## Runs -/

/-- Where the token of an open call is. -/
theorem Tokens.place (ht : Tokens past s) {i : Nat} {c : Call} (hi : s.calls[i]? = some c)
    (hopen : c.isOpen = true) : (∃ outcome, outcome ∈ received past i) ∨
      (∃ entry ∈ s.pending.entries, entry.call = i) ∨
      ∃ outcome, Act.settle i outcome ∈ s.todo := by
  have hone := ht.ofOpen hi hopen
  rw [tokens] at hone
  rcases Nat.eq_zero_or_pos (received past i).length with hreceived | hreceived
  · rcases Nat.eq_zero_or_pos (s.waiting i).length with hwaiting | hwaiting
    · obtain ⟨outcome, howed⟩ :=
        List.exists_mem_of_length_pos (show 0 < (s.owed i).length by omega)
      exact Or.inr (Or.inr ⟨outcome, mem_owed.mp howed⟩)
    · obtain ⟨entry, hentry⟩ := List.exists_mem_of_length_pos hwaiting
      exact Or.inr (Or.inl ⟨entry, mem_waiting.mp hentry⟩)
  · exact Or.inl (List.exists_mem_of_length_pos hreceived)

/-- What goes along with a run. -/
structure Ledger (setup : Setup) (past : List (Moment State Label Effect)) (s : State) : Prop where
  regular : s.Regular
  numbered : Numbered s
  tokens : Tokens past s
  traced : Traced setup past s
  slots : Slots past s

theorem ledger_of_run (h : Run (step setup) start past s) : Ledger setup past s := by
  induction h with
  | start => exact ⟨regular_start, numbered_start, tokens_start, traced_start, slots_start⟩
  | snoc _ hstep ih =>
    obtain ⟨hchange, hregular⟩ := change_of_step ih.regular hstep
    exact ⟨hregular, numbered_step hchange.shift ih.numbered,
      tokens_step hchange ih.numbered ih.tokens,
      traced_step hchange ih.numbered ih.tokens ih.traced,
      slots_step hchange ih.tokens ih.slots⟩

/-- **Calls get their own responses**, in every run of a client, whatever arrives. -/
theorem correlated_of_run (h : Run (step setup) start past s) : Correlated setup past s := by
  have hledger := ledger_of_run h
  have honce : ∀ i, (received past i).length ≤ 1 := by
    intro i
    have hone := hledger.tokens.le_one i
    rw [Client.tokens] at hone
    omega
  have hsingle : ∀ {i : Nat} {outcome : Outcome}, outcome ∈ received past i →
      received past i = [outcome] := by
    intro i outcome hin
    have hpos := List.length_pos_of_mem hin
    obtain ⟨o, ho⟩ := List.length_eq_one_iff.mp (Nat.le_antisymm (honce i) hpos)
    rw [ho] at hin ⊢
    rw [List.mem_singleton.mp hin]
  refine ⟨honce, ?_, ?_, ?_, ?_, ?_⟩
  · intro i c outcome hi hor
    apply hsingle
    rcases hor with hslot | hfin
    · exact hledger.slots.ofSlot hi hslot
    · exact hledger.slots.ofSlot hi (hledger.slots.ofFinished hi hfin)
  · intro i c hi hopen
    cases hslot : c.slot with
    | some outcome => exact hsingle (hledger.slots.ofSlot hi hslot)
    | none =>
      show received past i = []
      rw [List.eq_nil_iff_forall_not_mem]
      intro outcome hin
      rw [hledger.slots.ofReceived hi hopen hin] at hslot
      cases hslot
  · intro i outcome hin hlocal
    rcases hledger.traced.origin (Or.inl hin) with hloc | hfirst
    · rw [hloc] at hlocal
      cases hlocal
    · exact hfirst
  · intro m hm e hdelivery hfind
    exact step_receive_stray (h.step_of_mem hm) hdelivery hfind
  · intro i c hi hopen
    rcases hledger.tokens.place hi hopen with ⟨outcome, hin⟩ | hentry | howed
    · rw [hledger.slots.ofReceived hi hopen hin]
      exact Or.inl rfl
    · exact Or.inr (Or.inl hentry)
    · exact Or.inr (Or.inr howed)

/-- A response as its bytes arrive. -/
def responseBytes (seq : UInt64) (payload : Bytes) : Bytes :=
  match Envelope.encode (.response seq .none "") payload with
  | .ok body => Frame.encode body
  | .error _ => []

/-- Three calls.  Before the response to the second there is one under a number that was never given
out, and behind it the same number again; the first call is given up before its response comes, and
the third still waits when the client is closed. -/
def strayLabels : List Label :=
  [.call "A.B" [1] true, .call "A.C" [] true, .frame 1, .submit 1, .frame 0, .submit 0,
    .arrive (responseBytes 7 [9]), .receive,
    .arrive (responseBytes 1 [2, 3] ++ responseBytes 1 [8]), .receive, .readerAct, .receive,
    .collect 1, .abandon 0, .arrive (responseBytes 0 [4]), .receive,
    .call "A.D" [] false, .close, .closerAct 0, .closerAct 0]

theorem correlated_among_strays : ∃ past s,
    Run (step ⟨"peer", 100⟩) start past s ∧
      [received past 0, received past 1, received past 2]
        = [[], [.ok [2, 3]], [.error .closed]] ∧
      Correlated ⟨"peer", 100⟩ past s := by
  have hruns : (replay (step ⟨"peer", 100⟩) start strayLabels).map
      (fun r => [received r.1 0, received r.1 1, received r.1 2])
      = some [[], [.ok [2, 3]], [.error .closed]] := by decide +kernel
  obtain ⟨⟨past, s⟩, hreplay, hreceived⟩ := Option.map_eq_some_iff.mp hruns
  have hrun := Run.of_replay hreplay
  exact ⟨past, s, hrun, hreceived, correlated_of_run hrun⟩

end RemoteCall.Client
