import Mathlib.Data.List.Nodup
import RemoteCall.Proofs.Client.Correlation

/-!
# The table holds the calls that are awaited

An entry of the table is owned twice, by the table and by the caller who waits, and either may let
go first: somebody takes the entry off for an outcome, or the caller fails or gives up, perhaps when
its entry is long gone.  Callers take off whatever stands under their number, without looking.  This
is safe since numbers are given out one after the other and never again, so that `Accurate` holds
after every run: the numbers on the table are just those of the calls for which somebody waits and
for which no outcome was found yet, and a caller that leaves takes off at most its own entry.

`Tokens` and `Numbered` already say that a call for which somebody waits has one token, and whose
entry is whose.  What is added here is that nobody leaves an entry behind (`Attended`).
-/

namespace RemoteCall.Client

variable {setup : Setup} {s s' : State} {act : Option Act} {taken : Option Envelope}
  {past : List (Moment State Label Effect)} {label : Label} {shown : List Effect}

/-! ## What an accurate table is -/

/-- The outcomes that were found for call `i`: what it has received, and what some party that took
its entry off the table is bound to give it. -/
def decided (past : List (Moment State Label Effect)) (s : State) (i : Nat) : List Outcome :=
  received past i ++ s.owed i

/-- Somebody waits for call `i`, and no outcome was found for it yet. -/
def isAwaited (past : List (Moment State Label Effect)) (s : State) (i : Nat) : Bool :=
  match s.calls[i]? with
  | some c => c.isOpen && (decided past s i).isEmpty
  | none => false

/-- The numbers on the table. -/
def Pending.keys (p : Pending) : List Nat := p.entries.map Entry.seq

/-- Call `i` leaves: the table loses no entry but that of the call, and nothing happens to other
calls, to what they are owed, or to what the call itself has received. -/
structure OnlyLeaves (s s' : State) (i : Nat) : Prop where
  entries : s'.pending.entries = s.pending.entries.filter fun e => e.call ≠ i
  nextSeq : s'.pending.nextSeq = s.pending.nextSeq
  shut : s'.pending.shut = s.pending.shut
  todo : s'.todo = s.todo
  calls : ∀ j, j ≠ i → s'.calls[j]? = s.calls[j]?
  self : ∃ c stage, s.calls[i]? = some c ∧ s'.calls[i]? = some { c with stage := stage } ∧
    c.isOpen = true ∧ { c with stage := stage }.isOpen = false

/-- Call `i` leaves in a step: its caller gives up, or its frame cannot be made or handed over. -/
def Leaving (m : Moment State Label Effect) (i : Nat) : Prop :=
  m.label = .abandon i ∨
    (m.label = .frame i ∨ m.label = .submit i) ∧
      ∃ c cause, m.after.calls[i]? = some c ∧ c.stage = .failed cause

/-- What the table of a client is after a run. -/
structure Accurate (past : List (Moment State Label Effect)) (s : State) : Prop where
  /-- The numbers given out are 0, 1, 2 and so on, in the order of the calls. -/
  numbers : s.calls.filterMap Call.seq = List.range s.pending.nextSeq
  /-- No number stands on the table twice. -/
  nodup : s.pending.keys.Nodup
  /-- Every number on the table has been given out. -/
  lt : ∀ n ∈ s.pending.keys, n < s.pending.nextSeq
  /-- The numbers on the table are those of the calls that are awaited. -/
  mem_iff : ∀ n, n ∈ s.pending.keys ↔ ∃ i c, s.calls[i]? = some c ∧ c.seq = some n ∧
    c.isOpen = true ∧ decided past s i = []
  /-- So there are as many of them as such calls. -/
  length : s.pending.entries.length = (List.range s.calls.length).countP (isAwaited past s)
  /-- A caller that leaves at any time touches nobody else. -/
  leaving : ∀ m ∈ past, ∀ i, Leaving m i → OnlyLeaves m.before m.after i

/-! ## Nobody leaves an entry behind -/

/-- For every entry somebody waits. -/
def Attended (s : State) : Prop :=
  ∀ e ∈ s.pending.entries, ∃ c, s.calls[e.call]? = some c ∧ c.isOpen = true

/-- Where callers that wait still wait, entries that stay are still attended. -/
theorem Attended.mono (h : Attended s) (hentries : ∀ e ∈ s'.pending.entries, e ∈ s.pending.entries)
    (hcalls : ∀ e ∈ s'.pending.entries, ∀ c, s.calls[e.call]? = some c → c.isOpen = true →
      ∃ c', s'.calls[e.call]? = some c' ∧ c'.isOpen = true) : Attended s' := by
  intro e he
  obtain ⟨c, hc, hopen⟩ := h e (hentries e he)
  exact hcalls e he c hc hopen

/-- A step that only changes where the caller of call `i` is. -/
theorem Attended.stage {i : Nat} {stage : Stage} (h : Attended s)
    (hentries : ∀ e ∈ s'.pending.entries, e ∈ s.pending.entries)
    (hcalls : s'.calls = s.calls.modify i fun c => { c with stage := stage })
    (hself : ∀ e ∈ s'.pending.entries, e.call = i → ∀ c, s.calls[i]? = some c →
      { c with stage := stage }.isOpen = true) : Attended s' := by
  refine h.mono hentries ?_
  intro e he c hc hopen
  refine ⟨if i = e.call then { c with stage := stage } else c, ?_, ?_⟩
  · rw [hcalls, List.getElem?_modify, hc]
    split <;> rfl
  · split
    · next hi => exact hself e he hi.symm c (hi ▸ hc)
    · exact hopen

/-- Whose outcome was found has no entry. -/
theorem Tokens.waiting_of_decided (ht : Tokens past s) {i : Nat} {outcome : Outcome}
    (h : outcome ∈ decided past s i) : s.waiting i = [] := by
  have hone := ht.le_one i
  have hpos := List.length_pos_of_mem h
  rw [decided, List.length_append] at hpos
  rw [tokens] at hone
  exact List.eq_nil_of_length_eq_zero (by omega)

/-- For a call that has an entry no outcome was found. -/
theorem Tokens.decided_of_mem_waiting (ht : Tokens past s) {i : Nat} {e : Entry}
    (he : e ∈ s.waiting i) : decided past s i = [] := by
  rw [List.eq_nil_iff_forall_not_mem]
  intro outcome hdecided
  rw [ht.waiting_of_decided hdecided] at he
  cases he

/-- **Nobody leaves an entry behind.** -/
theorem attended_step (hc : Change s act taken s') (hs : Numbered s) (ht : Tokens past s)
    (hslots : Slots past s) (h : Attended s) : Attended s' := by
  have hsame {t : State} (hentries : ∀ e ∈ t.pending.entries, e ∈ s.pending.entries)
      (hcalls : t.calls = s.calls) : Attended t :=
    h.mono hentries fun e _ c hc hopen => ⟨c, hcalls ▸ hc, hopen⟩
  have hadded {t : State} {d : Call} (hentries : ∀ e ∈ t.pending.entries, e ∈ s.pending.entries)
      (hcalls : t.calls = s.calls ++ [d]) : Attended t := by
    refine h.mono hentries fun e _ c hc hopen => ⟨c, ?_, hopen⟩
    have hlt := (List.getElem?_eq_some_iff.mp hc).1
    rw [hcalls, List.getElem?_append_left hlt, hc]
  cases hc with
  | idle _ hp hcalls _ => exact hsame (fun e he => hp ▸ he) hcalls
  | began method payload keepsClient _ hp hcalls _ =>
    intro e he
    rw [hp] at he
    rcases List.mem_append.mp he with he | he
    · obtain ⟨c, hi, hopen⟩ := h e he
      have hlt := (List.getElem?_eq_some_iff.mp hi).1
      exact ⟨c, by rw [hcalls, List.getElem?_append_left hlt, hi], hopen⟩
    · cases List.mem_singleton.mp he
      exact ⟨_, by rw [hcalls, List.getElem?_concat_length], rfl⟩
  | refused _ _ _ hp hcalls _ => exact hadded (fun e he => hp ▸ he) hcalls
  | moved i c stage hi _ hopen hp hcalls _ =>
    refine h.stage (fun e he => hp ▸ he) hcalls ?_
    intro _ _ _ d hd
    cases hi.symm.trans hd
    exact hopen
  | collected i c outcome hi _ hslot hp hcalls _ =>
    refine h.stage (fun e he => hp ▸ he) hcalls ?_
    intro e he hcall
    -- the call has its outcome, and so no entry
    have hreceived := hslots.ofSlot hi hslot
    have hnone := ht.waiting_of_decided (List.mem_append_left _ hreceived)
    have hin : e ∈ s.waiting i := mem_waiting.mpr ⟨hp ▸ he, hcall⟩
    rw [hnone] at hin
    cases hin
  | left i c stage hi hopen _ _ hp hcalls _ =>
    obtain ⟨n, hn⟩ := Option.isSome_iff_exists.mp (hs.ofOpen hi hopen)
    have hp' : s'.pending = s.pending.remove n := by rw [hp, State.forget, hn]
    refine h.stage (fun e he => (mem_entries_of_mem_remove (hp' ▸ he)).1) hcalls ?_
    intro e he hcall
    -- the entry of the call went with it
    have hnone := waiting_of_remove hs hi hn hp' i
    have hin : e ∈ s'.waiting i := mem_waiting.mpr ⟨he, hcall⟩
    rw [hnone, if_pos rfl] at hin
    cases hin
  | answered _ _ _ hp hcalls _ =>
    exact hsame (fun e he => (mem_entries_of_mem_remove (hp ▸ he)).1) hcalls
  | oversized _ _ _ _ hp hcalls _ =>
    exact hsame (fun e he => (mem_entries_of_mem_remove (hp ▸ he)).1) hcalls
  | shut _ _ _ hp _ _ =>
    intro e he
    rw [hp] at he
    cases he
  | performed act _ hp hcalls =>
    cases act with
    | announce event => exact hsame (fun e he => hp ▸ he) hcalls
    | settle i outcome =>
      refine h.mono (fun e he => hp ▸ he) ?_
      intro e _ c hc hopen
      refine ⟨if i = e.call then if c.isOpen then { c with slot := some outcome } else c else c,
        ?_, ?_⟩
      · rw [hcalls, State.perform, State.settle, List.getElem?_modify, hc]
        rfl
      · rw [hopen]
        split <;> exact hopen

theorem attended_of_run (h : Run (step setup) start past s) : Attended s := by
  induction h with
  | start => exact fun e he => by cases he
  | snoc hrun hstep ih =>
    have hledger := ledger_of_run hrun
    have hchange := (change_of_step hledger.regular hstep).1
    exact attended_step hchange hledger.numbered hledger.tokens hledger.slots ih

/-! ## Numbers in order -/

/-- A step gives out the next number or none. -/
theorem numbers_step (h : Shift s s')
    (hs : s.calls.filterMap Call.seq = List.range s.pending.nextSeq) :
    s'.calls.filterMap Call.seq = List.range s'.pending.nextSeq := by
  cases h with
  | numbered c hc hseq hnext _ =>
    rw [hc, List.filterMap_append, hs, hnext, List.range_succ, List.filterMap_cons, hseq]
    rfl
  | unnumbered c hc hseq _ hp =>
    rw [hc, List.filterMap_append, hs, hp, List.filterMap_cons, hseq]
    exact List.append_nil _
  | kept i f hc hf hnext _ =>
    rw [hc, hnext, ← hs]
    cases hi : s.calls[i]? with
    | none => rw [List.modify_eq_self (List.getElem?_eq_none_iff.mp hi)]
    | some c => exact filterMap_modify_eq hi (hf c hi).1

theorem numbers_of_run (h : Run (step setup) start past s) :
    s.calls.filterMap Call.seq = List.range s.pending.nextSeq := by
  induction h with
  | start => rfl
  | snoc hrun hstep ih =>
    have hledger := ledger_of_run hrun
    exact numbers_step (change_of_step hledger.regular hstep).1.shift ih

/-! ## Keys -/

/-- A call has at most one entry, so no two entries are of one call. -/
theorem Tokens.nodup_calls (ht : Tokens past s) : (s.pending.entries.map Entry.call).Nodup := by
  rw [List.nodup_iff_count_le_one]
  intro i
  have hone := ht.waiting_le_one i
  rw [State.waiting, ← List.countP_eq_length_filter] at hone
  rw [List.count, List.countP_map]
  refine Nat.le_trans (Nat.le_of_eq (List.countP_congr ?_)) hone
  intro e _
  show (e.call == i) = true ↔ decide (e.call = i) = true
  rw [beq_iff_eq, decide_eq_true_iff]

theorem Numbered.call_eq (hs : Numbered s) {e e' : Entry} (he : e ∈ s.pending.entries)
    (he' : e' ∈ s.pending.entries) (hseq : e.seq = e'.seq) : e.call = e'.call := by
  obtain ⟨c, hc, hcs⟩ := hs.ofEntry he
  obtain ⟨c', hc', hcs'⟩ := hs.ofEntry he'
  exact hs.inj hc hc' hcs (hseq ▸ hcs')

theorem Ledger.nodup_keys (h : Ledger setup past s) : s.pending.keys.Nodup := by
  refine List.Nodup.map_on ?_ (List.Nodup.of_map _ h.tokens.nodup_calls)
  intro e he e' he' hseq
  have hcall := h.numbered.call_eq he he' hseq
  cases e
  cases e'
  simp only at hseq hcall
  rw [hseq, hcall]

theorem Numbered.keys_lt (hs : Numbered s) {n : Nat} (hn : n ∈ s.pending.keys) :
    n < s.pending.nextSeq := by
  obtain ⟨e, he, rfl⟩ := List.mem_map.mp hn
  obtain ⟨c, hc, hseq⟩ := hs.ofEntry he
  exact hs.lt hc hseq

theorem isAwaited_iff {i : Nat} : isAwaited past s i = true ↔
    ∃ c, s.calls[i]? = some c ∧ c.isOpen = true ∧ decided past s i = [] := by
  unfold isAwaited
  cases hi : s.calls[i]? with
  | none => exact iff_of_false Bool.false_ne_true fun ⟨c, hc, _⟩ => by cases hc
  | some c =>
    rw [Bool.and_eq_true, List.isEmpty_iff]
    constructor
    · intro h
      exact ⟨c, rfl, h.1, h.2⟩
    · rintro ⟨d, hd, h⟩
      cases hd
      exact h

/-- The calls of the entries are those that are awaited. -/
theorem mem_calls_iff (h : Ledger setup past s) (hattended : Attended s) {i : Nat} :
    i ∈ s.pending.entries.map Entry.call ↔ isAwaited past s i = true := by
  rw [isAwaited_iff]
  constructor
  · intro hi
    obtain ⟨e, he, rfl⟩ := List.mem_map.mp hi
    obtain ⟨c, hc, hopen⟩ := hattended e he
    exact ⟨c, hc, hopen, h.tokens.decided_of_mem_waiting (mem_waiting.mpr ⟨he, rfl⟩)⟩
  · rintro ⟨c, hc, hopen, hnone⟩
    obtain ⟨hreceived, howed⟩ := List.append_eq_nil_iff.mp hnone
    rcases h.tokens.place hc hopen with ⟨outcome, hin⟩ | ⟨e, he, hcall⟩ | ⟨outcome, hact⟩
    · rw [hreceived] at hin
      cases hin
    · exact List.mem_map.mpr ⟨e, he, hcall⟩
    · have hin := mem_owed.mpr hact
      rw [howed] at hin
      cases hin

theorem mem_keys_iff (h : Ledger setup past s) (hattended : Attended s) {n : Nat} :
    n ∈ s.pending.keys ↔ ∃ i c, s.calls[i]? = some c ∧ c.seq = some n ∧ c.isOpen = true ∧
      decided past s i = [] := by
  constructor
  · intro hn
    obtain ⟨e, he, rfl⟩ := List.mem_map.mp hn
    obtain ⟨c, hc, hseq⟩ := h.numbered.ofEntry he
    have hawaited := (mem_calls_iff h hattended).mp (List.mem_map_of_mem he)
    obtain ⟨d, hd, hopen, hnone⟩ := isAwaited_iff.mp hawaited
    cases hc.symm.trans hd
    exact ⟨e.call, c, hc, hseq, hopen, hnone⟩
  · rintro ⟨i, c, hc, hseq, hopen, hnone⟩
    have hin := (mem_calls_iff h hattended).mpr (isAwaited_iff.mpr ⟨c, hc, hopen, hnone⟩)
    obtain ⟨e, he, rfl⟩ := List.mem_map.mp hin
    obtain ⟨d, hd, hes⟩ := h.numbered.ofEntry he
    cases hc.symm.trans hd
    cases hseq.symm.trans hes
    exact List.mem_map_of_mem he

theorem length_entries (h : Ledger setup past s) (hattended : Attended s) :
    s.pending.entries.length = (List.range s.calls.length).countP (isAwaited past s) := by
  have hperm : (s.pending.entries.map Entry.call).Perm
      ((List.range s.calls.length).filter (isAwaited past s)) := by
    refine (List.perm_ext_iff_of_nodup h.tokens.nodup_calls
      (List.nodup_range.filter _)).mpr ?_
    intro i
    rw [mem_calls_iff h hattended, List.mem_filter, List.mem_range]
    constructor
    · intro hawaited
      obtain ⟨c, hc, _⟩ := isAwaited_iff.mp hawaited
      exact ⟨(List.getElem?_eq_some_iff.mp hc).1, hawaited⟩
    · exact And.right
  rw [List.countP_eq_length_filter, ← hperm.length_eq, List.length_map]

/-! ## Callers that leave -/

/-- A caller that leaves takes its own entry and touches nobody else. -/
theorem onlyLeaves_forget (hs : Numbered s) {i : Nat} {c : Call} {stage : Stage}
    (hi : s.calls[i]? = some c) (hopen : c.isOpen = true)
    (hclosed : { c with stage := stage }.isOpen = false) :
    OnlyLeaves s ((s.forget c).setStage i stage) i := by
  obtain ⟨n, hn⟩ := Option.isSome_iff_exists.mp (hs.ofOpen hi hopen)
  have hforget : s.forget c = { s with pending := s.pending.remove n } := by rw [State.forget, hn]
  rw [hforget]
  refine ⟨?_, rfl, rfl, rfl, ?_, c, stage, hi, ?_, hopen, hclosed⟩
  · -- the entry under the number of the call is the entry of the call
    refine List.filter_congr fun e he => ?_
    rw [decide_eq_decide]
    exact not_congr (hs.seq_eq_iff he hi hn)
  · intro j hj
    show (s.calls.modify i _)[j]? = _
    exact List.getElem?_modify_ne _ _ (Ne.symm hj)
  · show (s.calls.modify i _)[i]? = _
    rw [List.getElem?_modify_eq, hi]
    rfl

theorem onlyLeaves_of_move {i : Nat} (hs : Numbered s) (h : Move setup s label s' shown)
    (hleaving : Leaving ⟨s, label, s', shown⟩ i) : OnlyLeaves s s' i := by
  have hstays {c : Call} {stage : Stage} (hi : s.calls[i]? = some c)
      (hcalls : s'.calls = s.calls.modify i fun c => { c with stage := stage })
      (hstage : ∀ cause, stage ≠ .failed cause) :
      ¬ ∃ c cause, s'.calls[i]? = some c ∧ c.stage = .failed cause := by
    rintro ⟨d, cause, hd, hfailed⟩
    rw [hcalls, List.getElem?_modify_eq, hi] at hd
    cases hd
    exact hstage cause hfailed
  rcases hleaving with hlabel | ⟨hlabel | hlabel, hfailed⟩
  · cases hlabel
    cases h with
    | abandoned _ c hi hopen _ => exact onlyLeaves_forget hs hi hopen rfl
  · cases hlabel
    cases h with
    | framed _ c seq frame hi _ _ _ =>
      exact absurd hfailed (hstays hi rfl fun cause heq => by cases heq)
    | notFramed _ c seq cause hi hstage _ _ =>
      exact onlyLeaves_forget hs hi (by rw [Call.isOpen, hstage]) rfl
  · cases hlabel
    cases h with
    | submitted _ c seq frame hi _ _ _ _ =>
      exact absurd hfailed (hstays hi rfl fun cause heq => by cases heq)
    | notSubmitted _ c seq frame hi hstage _ _ =>
      exact onlyLeaves_forget hs hi (by rw [Call.isOpen, hstage]) rfl

/-! ## Runs -/

/-- **The table holds exactly the calls that are awaited**, after every run of a client. -/
theorem accurate_of_run (h : Run (step setup) start past s) : Accurate past s := by
  have hledger := ledger_of_run h
  have hattended := attended_of_run h
  exact {
    numbers := numbers_of_run h
    nodup := hledger.nodup_keys
    lt := fun n hn => hledger.numbered.keys_lt hn
    mem_iff := fun n => mem_keys_iff hledger hattended
    length := length_entries hledger hattended
    leaving := by
      intro m hm i hleaving
      obtain ⟨early, late, rfl⟩ := List.append_of_mem hm
      obtain ⟨hbefore, hstep⟩ := h.split
      exact onlyLeaves_of_move (ledger_of_run hbefore).numbered (move_of_step hstep) hleaving }

/-- Four calls.  The last gives up before it is handed over, and the first after its response came
but before it looked.  The frame of the second is over the limit.  The third still waits. -/
def leavingLabels : List Label :=
  [.call "A.B" [1] true, .call "A.Long" [1, 2, 3] true, .call "A.C" [] true, .call "A.D" [] true,
    .frame 0, .submit 0, .frame 1, .submit 1, .frame 2, .submit 2, .frame 3, .abandon 3,
    .arrive (responseBytes 0 [9]), .receive, .readerAct, .abandon 0,
    .dequeue, .write 50, .dequeue, .writerAct]

theorem accurate_after_leaving : ∃ past s,
    Run (step ⟨"peer", 50⟩) start past s ∧ s.pending.keys = [2] ∧ s.pending.nextSeq = 4 ∧
      Accurate past s := by
  have hruns : (replay (step ⟨"peer", 50⟩) start leavingLabels).map
      (fun r => (r.2.pending.keys, r.2.pending.nextSeq)) = some ([2], 4) := by decide +kernel
  obtain ⟨⟨past, s⟩, hreplay, hkeys⟩ := Option.map_eq_some_iff.mp hruns
  have hrun := Run.of_replay hreplay
  exact ⟨past, s, hrun, congrArg Prod.fst hkeys, congrArg Prod.snd hkeys, accurate_of_run hrun⟩

end RemoteCall.Client
