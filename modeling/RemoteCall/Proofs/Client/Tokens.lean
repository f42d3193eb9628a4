import RemoteCall.Proofs.Client.Change
import RemoteCall.Proofs.Run

/-!
# Every call is settled once

A call that was registered is worth one token.  The token is an entry of the table, or an act that
some party is bound to do, or an outcome that the call received; steps turn one into the other, and
only a caller that gives up or fails destroys one (`Turn`).  So a call never receives two outcomes,
and a caller that waits has not been forgotten (`Tokens`).

This needs to know whose token an entry is: `Numbered` says that no two calls share a number and
that an entry stands under the number of its call, so that taking the entry under a number off the
table touches one call only.
-/

namespace RemoteCall.Client

variable {s s' : State} {act : Option Act} {taken : Option Envelope}

/-! ## Numbers -/

/-- Calls and entries under their numbers. -/
structure Numbered (s : State) : Prop where
  lt : ∀ {i : Nat} {c : Call} {n : Nat}, s.calls[i]? = some c → c.seq = some n →
    n < s.pending.nextSeq
  inj : ∀ {i j : Nat} {c d : Call} {n : Nat}, s.calls[i]? = some c → s.calls[j]? = some d →
    c.seq = some n → d.seq = some n → i = j
  ofEntry : ∀ {e : Entry}, e ∈ s.pending.entries →
    ∃ c, s.calls[e.call]? = some c ∧ c.seq = some e.seq
  ofOpen : ∀ {i : Nat} {c : Call}, s.calls[i]? = some c → c.isOpen = true → c.seq.isSome = true

theorem numbered_start : Numbered start where
  lt h := by cases h
  inj h := by cases h
  ofEntry h := by cases h
  ofOpen h := by cases h

theorem mem_entries_of_find {p : Pending} {seq : Nat} {e : Entry} (h : p.find seq = some e) :
    e ∈ p.entries ∧ e.seq = seq :=
  ⟨List.mem_of_find?_eq_some h, by simpa using List.find?_some h⟩

theorem mem_entries_of_mem_remove {p : Pending} {seq : Nat} {e : Entry}
    (h : e ∈ (p.remove seq).entries) : e ∈ p.entries ∧ e.seq ≠ seq := by
  rw [Pending.remove] at h
  simpa using List.mem_filter.mp h

/-- What a step does to calls and table, as far as numbers go. -/
inductive Shift (s s' : State) : Prop
  /-- A call got the next number. -/
  | numbered (c : Call) : s'.calls = s.calls ++ [c] → c.seq = some s.pending.nextSeq →
      s'.pending.nextSeq = s.pending.nextSeq + 1 →
      s'.pending.entries = s.pending.entries ++ [⟨s.pending.nextSeq, s.calls.length⟩] → Shift s s'
  /-- A call was refused. -/
  | unnumbered (c : Call) : s'.calls = s.calls ++ [c] → c.seq = none → c.isOpen = false →
      s'.pending = s.pending → Shift s s'
  /-- Calls keep their numbers, none is open again, and there are no new entries. -/
  | kept (i : Nat) (f : Call → Call) : s'.calls = s.calls.modify i f →
      (∀ c, s.calls[i]? = some c → (f c).seq = c.seq ∧ ((f c).isOpen = true → c.isOpen = true)) →
      s'.pending.nextSeq = s.pending.nextSeq →
      (∀ e ∈ s'.pending.entries, e ∈ s.pending.entries) → Shift s s'

theorem Change.shift (h : Change s act taken s') : Shift s s' := by
  have hsame : s'.calls = s.calls → s'.pending.nextSeq = s.pending.nextSeq →
      (∀ e ∈ s'.pending.entries, e ∈ s.pending.entries) → Shift s s' := by
    intro hc
    exact .kept 0 id (by rw [hc, List.modify_id]) fun c _ => ⟨rfl, id⟩
  have hstage : ∀ {i : Nat} {c : Call} {stage : Stage}, s.calls[i]? = some c → c.isOpen = true →
      s'.calls = s.calls.modify i (fun c => { c with stage := stage }) →
      s'.pending.nextSeq = s.pending.nextSeq →
      (∀ e ∈ s'.pending.entries, e ∈ s.pending.entries) → Shift s s' := by
    intro i c stage hi hopen hc
    refine .kept i _ hc fun d hd => ⟨rfl, fun _ => ?_⟩
    cases hi.symm.trans hd
    exact hopen
  have hremove : ∀ {p : Pending} {seq : Nat}, s'.pending = p.remove seq → p = s.pending →
      ∀ e ∈ s'.pending.entries, e ∈ s.pending.entries := by
    intro p seq hp hs e he
    rw [hp] at he
    exact hs ▸ (mem_entries_of_mem_remove he).1
  cases h with
  | idle _ hp hc _ => exact hsame hc (by rw [hp]) (by simp [hp])
  | began method payload keepsClient _ hp hc _ =>
    exact .numbered _ hc rfl (by rw [hp]) (by rw [hp])
  | refused _ _ _ hp hc _ => exact .unnumbered _ hc rfl rfl hp
  | moved i c stage hi hopen _ hp hc _ => exact hstage hi hopen hc (by rw [hp]) (by simp [hp])
  | collected i c outcome hi hopen _ hp hc _ =>
    exact hstage hi hopen hc (by rw [hp]) (by simp [hp])
  | left i c stage hi hopen _ _ hp hc _ =>
    unfold State.forget at hp
    split at hp
    · exact hstage hi hopen hc (by rw [hp]; rfl) (hremove hp rfl)
    · exact hstage hi hopen hc (by rw [hp]) (by simp [hp])
  | answered _ _ _ hp hc _ => exact hsame hc (by rw [hp]; rfl) (hremove hp rfl)
  | oversized _ _ _ _ hp hc _ => exact hsame hc (by rw [hp]; rfl) (hremove hp rfl)
  | shut _ _ _ hp hc _ =>
    exact hsame hc (by rw [hp]; rfl) (by rw [hp]; exact fun _ he => by cases he)
  | performed act _ hp hc =>
    cases act with
    | announce event => exact hsame hc (by rw [hp]) (by simp [hp])
    | settle i outcome =>
      refine .kept i _ hc (fun c _ => ?_) (by rw [hp]) (by simp [hp])
      split
      · exact ⟨rfl, fun _ => ‹_›⟩
      · exact ⟨rfl, id⟩

/-- A call keeps its number for good. -/
theorem Shift.call_after (h : Shift s s') {i : Nat} {c : Call} (hi : s.calls[i]? = some c) :
    ∃ c', s'.calls[i]? = some c' ∧ c'.seq = c.seq := by
  have hlt := (List.getElem?_eq_some_iff.mp hi).1
  cases h with
  | numbered d hc _ _ _ => exact ⟨c, by rw [hc, List.getElem?_append_left hlt, hi], rfl⟩
  | unnumbered d hc _ _ _ => exact ⟨c, by rw [hc, List.getElem?_append_left hlt, hi], rfl⟩
  | kept k f hc hf _ _ =>
    refine ⟨if k = i then f c else c, ?_, ?_⟩
    · rw [hc, List.getElem?_modify, hi]
      split <;> rfl
    · split
      · next hk => exact (hf c (hk ▸ hi)).1
      · rfl

/-- Where a call after a step comes from: it is new, or was there under the same number. -/
theorem Shift.call_before (h : Shift s s') {i : Nat} {c' : Call} (hi : s'.calls[i]? = some c') :
    (i = s.calls.length ∧ (c'.seq = none ∧ c'.isOpen = false ∨
        c'.seq = some s.pending.nextSeq ∧ s'.pending.nextSeq = s.pending.nextSeq + 1 ∧
          ⟨s.pending.nextSeq, i⟩ ∈ s'.pending.entries)) ∨
      ∃ c, s.calls[i]? = some c ∧ c'.seq = c.seq ∧ (c'.isOpen = true → c.isOpen = true) := by
  cases h with
  | numbered d hc hseq hnext hentries =>
    rw [hc] at hi
    rcases getElem?_append_singleton hi with hi | ⟨rfl, rfl⟩
    · exact Or.inr ⟨c', hi, rfl, id⟩
    · refine Or.inl ⟨rfl, Or.inr ⟨hseq, hnext, ?_⟩⟩
      rw [hentries]
      exact List.mem_append_right _ (List.mem_singleton_self _)
  | unnumbered d hc hseq hopen _ =>
    rw [hc] at hi
    rcases getElem?_append_singleton hi with hi | ⟨rfl, rfl⟩
    · exact Or.inr ⟨c', hi, rfl, id⟩
    · exact Or.inl ⟨rfl, Or.inl ⟨hseq, hopen⟩⟩
  | kept k f hc hf _ _ =>
    rw [hc] at hi
    obtain ⟨c, hci, rfl⟩ := getElem?_modify_eq_some hi
    refine Or.inr ⟨c, hci, ?_⟩
    split
    · next hk => exact hf c (hk ▸ hci)
    · exact ⟨rfl, id⟩

theorem Shift.length_le (h : Shift s s') : s.calls.length ≤ s'.calls.length := by
  cases h with
  | numbered _ hc _ _ _ => simp [hc]
  | unnumbered _ hc _ _ _ => simp [hc]
  | kept _ _ hc _ _ _ => simp [hc]

theorem Shift.nextSeq_le (h : Shift s s') : s.pending.nextSeq ≤ s'.pending.nextSeq := by
  cases h with
  | numbered _ _ _ hnext _ => omega
  | unnumbered _ _ _ _ hp => exact Nat.le_of_eq (by rw [hp])
  | kept _ _ _ _ hnext _ => omega

/-- **Numbers stay in order.** -/
theorem numbered_step (h : Shift s s') (hs : Numbered s) : Numbered s' := by
  have hlt : ∀ {i : Nat} {c : Call} {n : Nat}, s'.calls[i]? = some c → c.seq = some n →
      n < s'.pending.nextSeq := by
    intro i c n hi hn
    have hle := h.nextSeq_le
    rcases h.call_before hi with ⟨_, ⟨hnone, _⟩ | ⟨hnew, hnext, _⟩⟩ | ⟨d, hd, hseq, _⟩
    · rw [hnone] at hn
      cases hn
    · cases hnew.symm.trans hn
      omega
    · have := hs.lt hd (hseq ▸ hn)
      omega
  refine ⟨hlt, ?_, ?_, ?_⟩
  · intro i j c d n hi hj hc hd
    -- the number of a new call is above all numbers given out before
    have hnew : ∀ {k l : Nat} {a b : Call}, s.calls[k]? = some b → b.seq = some n →
        a.seq = some s.pending.nextSeq → a.seq = some n → k = l := by
      intro k l a b hk hb ha hn
      cases ha.symm.trans hn
      exact absurd (hs.lt hk hb) (Nat.lt_irrefl _)
    rcases h.call_before hi with ⟨hci, ⟨hcn, _⟩ | ⟨hcn, _⟩⟩ | ⟨c₀, hc₀, hcs, _⟩ <;>
      rcases h.call_before hj with ⟨hdj, ⟨hdn, _⟩ | ⟨hdn, _⟩⟩ | ⟨d₀, hd₀, hds, _⟩
    · rw [hci, hdj]
    · rw [hci, hdj]
    · rw [hcn] at hc
      cases hc
    · rw [hci, hdj]
    · rw [hci, hdj]
    · exact (hnew hd₀ (hds ▸ hd) hcn hc).symm
    · rw [hdn] at hd
      cases hd
    · exact hnew hc₀ (hcs ▸ hc) hdn hd
    · exact hs.inj hc₀ hd₀ (hcs ▸ hc) (hds ▸ hd)
  · intro e he
    have hold : e ∈ s.pending.entries → ∃ c, s'.calls[e.call]? = some c ∧ c.seq = some e.seq := by
      intro hmem
      obtain ⟨c, hc, hseq⟩ := hs.ofEntry hmem
      obtain ⟨c', hc', hseq'⟩ := h.call_after hc
      exact ⟨c', hc', hseq'.trans hseq⟩
    cases h with
    | numbered c hcalls hc _ hentries =>
      rw [hentries] at he
      rcases List.mem_append.mp he with he | he
      · exact hold he
      · cases List.mem_singleton.mp he
        exact ⟨c, by rw [hcalls, List.getElem?_concat_length], hc⟩
    | unnumbered _ _ _ _ hp => exact hold (hp ▸ he)
    | kept _ _ _ _ _ hentries => exact hold (hentries e he)
  · intro i c hi hopen
    rcases h.call_before hi with ⟨_, ⟨_, hclosed⟩ | ⟨hnew, _⟩⟩ | ⟨d, hd, hseq, hback⟩
    · rw [hclosed] at hopen
      cases hopen
    · rw [hnew]
      rfl
    · rw [hseq]
      exact hs.ofOpen hd (hback hopen)

/-! ## Tokens -/

/-- The outcome that an act means for call `i`. -/
def Act.outcomeFor (i : Nat) : Act → Option Outcome
  | .settle call outcome => if call = i then some outcome else none
  | .announce _ => none

/-- The entries of call `i`. -/
def State.waiting (s : State) (i : Nat) : List Entry :=
  s.pending.entries.filter fun e => e.call = i

/-- The outcomes that some party is bound to give to call `i`. -/
def State.owed (s : State) (i : Nat) : List Outcome :=
  s.todo.filterMap (Act.outcomeFor i)

/-- The outcome that an act, if there is one, gives to call `i`. -/
def given (i : Nat) (act : Option Act) : List Outcome :=
  (act.bind (Act.outcomeFor i)).toList

/-- The outcomes that call `i` has received in the course of a run. -/
def received (past : List (Moment State Label Effect)) (i : Nat) : List Outcome :=
  past.flatMap fun m => given i (m.before.nextAct m.label)

/-- What a step means to the token of call `i`. -/
inductive Turn (s s' : State) (act : Option Act) (taken : Option Envelope) (i : Nat) : Prop
  /-- It stays what it is, or the call receives what it was owed. -/
  | kept : s'.waiting i = s.waiting i → (given i act ++ s'.owed i).Perm (s.owed i) →
      Turn s s' act taken i
  /-- The call begins. -/
  | began : act = none → i = s.calls.length → s'.calls.length = s.calls.length + 1 →
      (s'.waiting i).length = 1 → s'.owed i = s.owed i → Turn s s' act taken i
  /-- The caller is gone. -/
  | left : act = none → s'.waiting i = [] → s'.owed i = s.owed i →
      (∀ c, s'.calls[i]? = some c → c.isOpen = false) → Turn s s' act taken i
  /-- Somebody takes the entry off the table and is now bound to give an outcome. -/
  | taken (entry : Entry) (outcome : Outcome) : act = none → s.waiting i = [entry] →
      s'.waiting i = [] → (s'.owed i).Perm (outcome :: s.owed i) →
      (isLocal outcome = true ∨ ∃ e, taken = some e ∧
        s.pending.find e.header.seq.toNat = some entry ∧ outcome = State.outcomeOf e) →
      Turn s s' act taken i

@[simp] theorem Act.outcomeFor_self (i : Nat) (outcome : Outcome) :
    Act.outcomeFor i (.settle i outcome) = some outcome :=
  if_pos rfl

theorem Act.outcomeFor_of_ne {i call : Nat} (h : call ≠ i) (outcome : Outcome) :
    Act.outcomeFor i (.settle call outcome) = none :=
  if_neg h

theorem mem_owed {i : Nat} {outcome : Outcome} :
    outcome ∈ s.owed i ↔ Act.settle i outcome ∈ s.todo := by
  rw [State.owed, List.mem_filterMap]
  constructor
  · rintro ⟨act, hact, hfor⟩
    cases act with
    | announce event => cases hfor
    | settle call o =>
      rw [Act.outcomeFor] at hfor
      split at hfor
      · next hcall =>
        cases hfor
        exact hcall ▸ hact
      · cases hfor
  · intro hact
    exact ⟨_, hact, Act.outcomeFor_self i outcome⟩

theorem mem_waiting {i : Nat} {e : Entry} :
    e ∈ s.waiting i ↔ e ∈ s.pending.entries ∧ e.call = i := by
  rw [State.waiting, List.mem_filter, decide_eq_true_iff]

/-- Numbers are unique, so the number of an entry tells its call. -/
theorem Numbered.seq_eq_iff (hs : Numbered s) {e : Entry} (he : e ∈ s.pending.entries) {i n : Nat}
    {c : Call} (hi : s.calls[i]? = some c) (hn : c.seq = some n) : e.seq = n ↔ e.call = i := by
  obtain ⟨d, hd, hseq⟩ := hs.ofEntry he
  constructor
  · intro heq
    exact hs.inj hd hi (heq ▸ hseq) hn
  · intro heq
    rw [heq] at hd
    cases hi.symm.trans hd
    exact Option.some.inj (hseq.symm.trans hn)

/-- Taking a call's number off the table takes off its entries and no others. -/
theorem waiting_of_remove (hs : Numbered s) {i n : Nat} {c : Call} (hi : s.calls[i]? = some c)
    (hn : c.seq = some n) (hp : s'.pending = s.pending.remove n) (j : Nat) :
    s'.waiting j = if j = i then [] else s.waiting j := by
  have hcall := fun e (he : e ∈ s.pending.entries) => hs.seq_eq_iff he hi hn
  rw [State.waiting, State.waiting, hp, Pending.remove, List.filter_filter]
  split
  · next hj =>
    rw [List.filter_eq_nil_iff]
    intro e he
    simp only [Bool.and_eq_true, decide_eq_true_iff, not_and]
    intro heq hne
    exact hne ((hcall e he).mpr (heq.trans hj))
  · next hj =>
    apply List.filter_congr
    intro e he
    have hne : e.call = j → e.seq ≠ n := by
      intro heq hen
      exact hj (heq.symm.trans ((hcall e he).mp hen))
    simp only [decide_not, Bool.and_eq_left_iff_imp, decide_eq_true_eq, Bool.not_eq_eq_eq_not,
      Bool.not_true, decide_eq_false_iff_not]
    exact hne

theorem owed_perm {acts : List Act} (h : s'.todo.Perm (acts ++ s.todo)) (i : Nat) :
    (s'.owed i).Perm (acts.filterMap (Act.outcomeFor i) ++ s.owed i) := by
  have hperm := h.filterMap (Act.outcomeFor i)
  rwa [List.filterMap_append] at hperm

/-- What all calls of the table are owed when it is shut down. -/
theorem outcomeFor_settleAll (s : State) (outcome : Outcome) (i : Nat) :
    (s.settleAll outcome).filterMap (Act.outcomeFor i) = (s.waiting i).map fun _ => outcome := by
  rw [State.settleAll, State.waiting]
  induction s.pending.entries with
  | nil => rfl
  | cons e entries ih =>
    rw [List.map_cons, List.filterMap_cons, List.filter_cons, ih]
    by_cases he : e.call = i
    · simp [he]
    · simp [he, Act.outcomeFor_of_ne he]

theorem outcomeFor_announce (events : List Event) (i : Nat) :
    (events.map Act.announce).filterMap (Act.outcomeFor i) = [] := by
  rw [List.filterMap_eq_nil_iff]
  intro act hact
  obtain ⟨event, _, rfl⟩ := List.mem_map.mp hact
  rfl

/-- Where nothing happens to the table and to the acts, nothing happens to a token. -/
theorem Turn.of_eq {i : Nat} (hp : s'.pending = s.pending) (ht : s'.todo = s.todo) :
    Turn s s' none taken i := by
  refine .kept (by rw [State.waiting, State.waiting, hp]) (List.Perm.of_eq ?_)
  show s'.owed i = s.owed i
  rw [State.owed, State.owed, ht]

theorem turn_of_find (hs : Numbered s) {i n : Nat} {entry : Entry} {outcome : Outcome}
    (hone : (s.waiting i).length ≤ 1) (hfind : s.pending.find n = some entry)
    (hp : s'.pending = s.pending.remove n)
    (ht : s'.todo.Perm (.settle entry.call outcome :: s.todo))
    (horigin : isLocal outcome = true ∨ ∃ e, taken = some e ∧
      s.pending.find e.header.seq.toNat = some entry ∧ outcome = State.outcomeOf e) :
    Turn s s' none taken i := by
  obtain ⟨hmem, hseq⟩ := mem_entries_of_find hfind
  obtain ⟨c, hc, hcs⟩ := hs.ofEntry hmem
  have hwaiting := waiting_of_remove hs hc (hseq ▸ hcs) hp i
  have howed := @owed_perm s s' [.settle entry.call outcome] ht i
  rw [List.filterMap_cons] at howed
  by_cases hi : i = entry.call
  · subst hi
    rw [if_pos rfl] at hwaiting
    simp only [Act.outcomeFor_self, List.filterMap_nil] at howed
    -- the entry that was found is the only one of its call
    refine .taken entry outcome rfl ?_ hwaiting howed horigin
    have hin : entry ∈ s.waiting entry.call := mem_waiting.mpr ⟨hmem, rfl⟩
    obtain ⟨e, he⟩ := List.length_eq_one_iff.mp (Nat.le_antisymm hone (List.length_pos_of_mem hin))
    rw [he] at hin ⊢
    rw [List.mem_singleton.mp hin]
  · rw [if_neg hi] at hwaiting
    simp only [Act.outcomeFor_of_ne (Ne.symm hi), List.filterMap_nil] at howed
    exact .kept hwaiting howed

/-- A new call has one entry, and the others keep theirs. -/
theorem turn_of_began (hs : Numbered s) {i : Nat} {d : Call}
    (hp : s'.pending.entries = s.pending.entries ++ [⟨s.pending.nextSeq, s.calls.length⟩])
    (hc : s'.calls = s.calls ++ [d]) (ht : s'.todo = s.todo) : Turn s s' none taken i := by
  have howed : s'.owed i = s.owed i := by rw [State.owed, State.owed, ht]
  have hwaiting : s'.waiting i = s.waiting i ++
      if s.calls.length = i then [⟨s.pending.nextSeq, s.calls.length⟩] else [] := by
    rw [State.waiting, hp, List.filter_append, List.filter_cons, List.filter_nil]
    simp only [decide_eq_true_eq]
    rfl
  by_cases hi : s.calls.length = i
  · -- entries are of calls that were made before
    have hnone : s.waiting i = [] := by
      rw [List.eq_nil_iff_forall_not_mem]
      intro e he
      obtain ⟨hmem, hcall⟩ := mem_waiting.mp he
      obtain ⟨c, hcc, _⟩ := hs.ofEntry hmem
      have := (List.getElem?_eq_some_iff.mp hcc).1
      omega
    refine .began rfl hi.symm ?_ ?_ howed
    · rw [hc, List.length_append, List.length_singleton]
    · rw [hwaiting, hnone, if_pos hi]
      rfl
  · rw [if_neg hi, List.append_nil] at hwaiting
    exact .kept hwaiting (List.Perm.of_eq howed)

/-- A caller that goes takes its entry along, and the others keep theirs. -/
theorem turn_of_left (hs : Numbered s) {i k : Nat} {c : Call} {stage : Stage}
    (hk : s.calls[k]? = some c) (hopen : c.isOpen = true)
    (hclosed : { c with stage := stage }.isOpen = false) (hp : s'.pending = (s.forget c).pending)
    (hc : s'.calls = s.calls.modify k fun c => { c with stage := stage })
    (ht : s'.todo = s.todo) : Turn s s' none taken i := by
  have howed : s'.owed i = s.owed i := by rw [State.owed, State.owed, ht]
  obtain ⟨n, hn⟩ := Option.isSome_iff_exists.mp (hs.ofOpen hk hopen)
  have hp' : s'.pending = s.pending.remove n := by rw [hp, State.forget, hn]
  have hwaiting := waiting_of_remove hs hk hn hp' i
  by_cases hi : i = k
  · rw [if_pos hi] at hwaiting
    refine .left rfl hwaiting howed ?_
    intro d hd
    rw [hc] at hd
    obtain ⟨c₀, hc₀, rfl⟩ := getElem?_modify_eq_some hd
    rw [if_pos hi.symm]
    rw [hi, hk] at hc₀
    cases hc₀
    exact hclosed
  · rw [if_neg hi] at hwaiting
    exact .kept hwaiting (List.Perm.of_eq howed)

/-- A table that is shut down owes an outcome for each of its entries. -/
theorem turn_of_shut {i : Nat} {events : List Event} {outcome : Outcome}
    (hone : (s.waiting i).length ≤ 1) (hlocal : isLocal outcome = true)
    (hp : s'.pending = s.pending.shutDown)
    (ht : s'.todo.Perm (events.map Act.announce ++ s.settleAll outcome ++ s.todo)) :
    Turn s s' none taken i := by
  have hnone : s'.waiting i = [] := by
    rw [State.waiting, hp]
    rfl
  have howed := owed_perm ht i
  rw [List.filterMap_append, outcomeFor_announce, outcomeFor_settleAll, List.nil_append] at howed
  rcases hwaiting : s.waiting i with _ | ⟨entry, _ | ⟨other, entries⟩⟩
  · rw [hwaiting, List.map_nil, List.nil_append] at howed
    exact .kept (hnone.trans hwaiting.symm) howed
  · rw [hwaiting] at howed
    exact .taken entry outcome rfl hwaiting hnone howed (Or.inl hlocal)
  · rw [hwaiting] at hone
    simp at hone

/-- An act that is done leaves the list of acts, and its outcome has been given. -/
theorem turn_of_performed {i : Nat} {act : Act} (hp : s'.pending = s.pending)
    (hperm : s.todo.Perm (act :: s'.todo)) : Turn s s' (some act) taken i := by
  refine .kept (by rw [State.waiting, State.waiting, hp]) ?_
  have howed := (hperm.filterMap (Act.outcomeFor i)).symm
  rw [List.filterMap_cons] at howed
  show ((Act.outcomeFor i act).toList ++ s'.owed i).Perm _
  cases hact : act.outcomeFor i with
  | none =>
    rw [hact] at howed
    exact howed
  | some outcome =>
    rw [hact] at howed
    exact howed

/-- **What a step means to one token**, provided the call has no more than one entry. -/
theorem Change.turn (h : Change s act taken s') (hs : Numbered s) {i : Nat}
    (hone : (s.waiting i).length ≤ 1) : Turn s s' act taken i := by
  cases h with
  | idle _ hp _ ht => exact .of_eq hp ht
  | began method payload keepsClient _ hp hc ht => exact turn_of_began hs (by rw [hp]) hc ht
  | refused _ _ _ hp _ ht => exact .of_eq hp ht
  | moved _ _ _ _ _ _ hp _ ht => exact .of_eq hp ht
  | collected _ _ _ _ _ _ hp _ ht => exact .of_eq hp ht
  | left k c stage hk hopen hclosed _ hp hc ht =>
    exact turn_of_left hs hk hopen hclosed hp hc ht
  | answered e entry hfind hp _ ht =>
    have hseq := (mem_entries_of_find hfind).2
    exact turn_of_find hs hone hfind (hseq ▸ hp) ht (Or.inr ⟨e, rfl, hfind, rfl⟩)
  | oversized seq entry cause hfind hp _ ht =>
    exact turn_of_find hs hone hfind hp ht (Or.inl rfl)
  | shut events outcome hlocal hp _ ht => exact turn_of_shut hone hlocal hp ht
  | performed act hperm hp _ => exact turn_of_performed hp hperm

/-- How many tokens call `i` has after a run. -/
def tokens (past : List (Moment State Label Effect)) (s : State) (i : Nat) : Nat :=
  (received past i).length + (s.owed i).length + (s.waiting i).length

/-- How the tokens of all calls stand after a run. -/
structure Tokens (past : List (Moment State Label Effect)) (s : State) : Prop where
  le_one : ∀ i, tokens past s i ≤ 1
  ofOpen : ∀ {i : Nat} {c : Call}, s.calls[i]? = some c → c.isOpen = true → tokens past s i = 1
  ofNew : ∀ {i : Nat}, s.calls.length ≤ i → tokens past s i = 0

theorem tokens_start : Tokens [] start where
  le_one _ := Nat.zero_le 1
  ofOpen h := by cases h
  ofNew _ := rfl

theorem received_snoc (past : List (Moment State Label Effect)) (s s' : State) (label : Label)
    (shown : List Effect) (i : Nat) :
    received (past ++ [⟨s, label, s', shown⟩]) i
      = received past i ++ given i (s.nextAct label) := by
  rw [received, List.flatMap_append, List.flatMap_cons, List.flatMap_nil, List.append_nil]
  rfl

theorem Tokens.waiting_le_one {past : List (Moment State Label Effect)} (h : Tokens past s)
    (i : Nat) : (s.waiting i).length ≤ 1 := by
  have hone := h.le_one i
  rw [tokens] at hone
  omega

/-- What a step does to the number of tokens of a call: it stays, or a new call gets its one token,
or the caller is gone and there may be less. -/
theorem tokens_of_turn {past : List (Moment State Label Effect)} {label : Label}
    {shown : List Effect} {i : Nat} (h : Tokens past s) (ht : Turn s s' (s.nextAct label) taken i) :
    tokens (past ++ [⟨s, label, s', shown⟩]) s' i = tokens past s i ∨
      (i = s.calls.length ∧ s'.calls.length = s.calls.length + 1 ∧
        tokens (past ++ [⟨s, label, s', shown⟩]) s' i = tokens past s i + 1) ∨
      (tokens (past ++ [⟨s, label, s', shown⟩]) s' i ≤ tokens past s i ∧
        ∀ c, s'.calls[i]? = some c → c.isOpen = false) := by
  have hnone : (given i none).length = 0 := rfl
  rw [tokens, tokens, received_snoc, List.length_append]
  cases ht with
  | kept hw hperm =>
    have hlen := hperm.length_eq
    rw [List.length_append] at hlen
    rw [hw]
    omega
  | began hact hi hlen hw howed =>
    have hzero := h.ofNew (Nat.le_of_eq hi.symm)
    rw [tokens] at hzero
    rw [hact, hnone, howed, hw]
    omega
  | left hact hw howed hclosed =>
    refine Or.inr (Or.inr ⟨?_, hclosed⟩)
    rw [hact, hnone, howed, hw, List.length_nil]
    omega
  | taken entry outcome hact hold hw hperm _ =>
    rw [hact, hnone, hold, hw, hperm.length_eq, List.length_cons, List.length_nil,
      List.length_singleton]
    omega

/-- **Tokens are neither copied nor lost.** -/
theorem tokens_step {past : List (Moment State Label Effect)} {label : Label} {shown : List Effect}
    (hc : Change s (s.nextAct label) taken s') (hs : Numbered s) (h : Tokens past s) :
    Tokens (past ++ [⟨s, label, s', shown⟩]) s' := by
  have hcount := fun i =>
    @tokens_of_turn s s' _ past label shown i h (hc.turn hs (h.waiting_le_one i))
  refine ⟨?_, ?_, ?_⟩
  · intro i
    have hone := h.le_one i
    rcases hcount i with heq | ⟨hi, _, heq⟩ | ⟨hle, _⟩
    · omega
    · have := h.ofNew (Nat.le_of_eq hi.symm)
      omega
    · omega
  · intro i c hi hopen
    rcases hcount i with heq | ⟨hnew, _, heq⟩ | ⟨_, hclosed⟩
    · rcases hc.shift.call_before hi with ⟨hnew, ⟨_, hclosed⟩ | ⟨_, _, hmem⟩⟩ | ⟨d, hd, _, hback⟩
      · rw [hclosed] at hopen
        cases hopen
      · -- a new call stands in the table
        have hzero := h.ofNew (Nat.le_of_eq hnew.symm)
        have hin : ⟨s.pending.nextSeq, i⟩ ∈ s'.waiting i := mem_waiting.mpr ⟨hmem, rfl⟩
        have hpos := List.length_pos_of_mem hin
        rw [hzero, tokens] at heq
        omega
      · rw [heq]
        exact h.ofOpen hd (hback hopen)
    · rw [heq, h.ofNew (Nat.le_of_eq hnew.symm)]
    · rw [hclosed c hi] at hopen
      cases hopen
  · intro i hi
    have hzero := h.ofNew (Nat.le_trans hc.shift.length_le hi)
    rcases hcount i with heq | ⟨hnew, hlen, _⟩ | ⟨hle, _⟩
    · omega
    · omega
    · omega

end RemoteCall.Client
