import RemoteCall.Proofs.Conversation.Travel

/-!
# The way of a call

As long as nobody closes the client or gives up a call, and every response has its call, a call goes
one way: it is registered, waits for room in the outbox, is handed over, its response is found, its
outcome appears in the slot and is taken out (`Position`).  Until its response is found it is
expected under its number, and from then on it is not.  `OnCourse` says this of all calls of a
client; each kind of step has a lemma by which all calls stay on course.

To the server a client is what it sends: the requests that were handed over (`State.HasSent`) and the
bytes that are still to come (`State.outgoing`).
-/

namespace RemoteCall.Client

open Connection (Request)

/-! ## What is seen from outside -/

/-- Whether the frame of a call was handed over to the writer. -/
def Stage.isHandedOver : Stage → Bool
  | .waiting => true
  | .finished _ => true
  | _ => false

/-- The request is that of a call that was handed over. -/
def State.HasSent (s : State) (r : Request) : Prop :=
  ∃ (i : Nat) (c : Call), s.calls[i]? = some c ∧ c.stage.isHandedOver = true ∧ c.request i = r

/-- A response under this number is expected. -/
def Pending.Expects (p : Pending) (n : Nat) : Prop :=
  ⟨n, n⟩ ∈ p.entries

/-- What is left of the frame that is being written. -/
def State.unwritten (s : State) : Bytes :=
  match s.writer.phase with
  | .writing left => left
  | _ => []

/-- The bytes of something in the outbox. -/
def Item.bytes : Item → Bytes
  | .request _ body => Frame.encode body
  | .close => []

/-- All that the client is still going to write. -/
def State.outgoing (s : State) : Bytes :=
  s.unwritten ++ s.outbox.items.flatMap Item.bytes

/-! ## The invariant -/

/-- How far a call is on its way, with a table, with what the reader has to do, and with the answer
that the registry has for it. -/
inductive Position (answer : Request → Outcome) (table : Pending) (todo : List Act) (i : Nat)
    (c : Call) : Prop
  | registered : c.stage = .registered → c.slot = none → table.Expects i →
      Position answer table todo i c
  | queueing : c.stage = .queueing (c.request i).body → c.slot = none → table.Expects i →
      Position answer table todo i c
  | waiting : c.stage = .waiting → c.slot = none → table.Expects i → Position answer table todo i c
  /-- The reader has found the response. -/
  | owed : c.stage = .waiting → c.slot = none → ¬ table.Expects i →
      todo = [.settle i (answer (c.request i))] → Position answer table todo i c
  | settled : c.stage = .waiting → c.slot = some (answer (c.request i)) → ¬ table.Expects i →
      Position answer table todo i c
  | finished : c.stage = .finished (answer (c.request i)) → ¬ table.Expects i →
      Position answer table todo i c

/-- The reader has nothing to do, or is about to give a call its answer. -/
def Delivers (answer : Request → Outcome) (s : State) : Prop :=
  s.reader.todo = [] ∨ ∃ (i : Nat) (c : Call), s.calls[i]? = some c ∧ ¬ s.pending.Expects i ∧
    s.reader.todo = [.settle i (answer (c.request i))]

/-- All calls are on their way, and the table holds nothing else. -/
structure OnCourse (answer : Request → Outcome) (s : State) : Prop where
  next : s.pending.nextSeq = s.calls.length
  entries : ∀ e ∈ s.pending.entries, e.seq = e.call ∧ e.call < s.calls.length
  seq : ∀ {i : Nat} {c : Call}, s.calls[i]? = some c → c.seq = some i
  position : ∀ {i : Nat} {c : Call}, s.calls[i]? = some c →
    Position answer s.pending s.reader.todo i c
  delivers : Delivers answer s

/-- The writer waits for a frame or has something left of one. -/
def Writer.IsAtWork (w : Writer) : Prop :=
  w = ⟨[], .idle⟩ ∨ ∃ left, left ≠ [] ∧ w = ⟨[], .writing left⟩

/-- Nobody has closed the client, and the connection lasts. -/
structure Lasting (s : State) : Prop where
  shut : s.pending.shut = false
  ended : s.reader.ended = false
  abort : s.reader.abort = false
  writer : s.writer.IsAtWork
  isOpen : s.outbox.isOpen = true
  items : ∀ item ∈ s.outbox.items, ∃ r, s.HasSent r ∧ item = .request r.seq.toNat r.body
  closers : s.closers = []
  dropped : s.dropped = none
  inputEnded : s.inputEnded = false

variable {s s' : State} {answer : Request → Outcome}

theorem onCourse_start (answer : Request → Outcome) : OnCourse answer start where
  next := rfl
  entries := fun _ he => by cases he
  seq h := by cases h
  position h := by cases h
  delivers := Or.inl rfl

theorem lasting_start : Lasting start where
  shut := rfl
  ended := rfl
  abort := rfl
  writer := Or.inl rfl
  isOpen := rfl
  items := fun _ hitem => by cases hitem
  closers := rfl
  dropped := rfl
  inputEnded := rfl

/-! ## Requests that were sent -/

/-- The number of a request is that of its call. -/
theorem toNat_seq {i : Nat} {c : Call} (hfew : s.calls.length ≤ 2 ^ 64)
    (hi : s.calls[i]? = some c) : (c.request i).seq.toNat = i := by
  have hlt := (List.getElem?_eq_some_iff.mp hi).1
  show (UInt64.ofNat i).toNat = i
  rw [UInt64.toNat_ofNat', Nat.mod_eq_of_lt (by omega)]

/-- Requests that were sent under one number are one request. -/
theorem State.HasSent.inj {r x : Request} (hfew : s.calls.length ≤ 2 ^ 64) (hr : s.HasSent r)
    (hx : s.HasSent x) (hseq : r.seq = x.seq) : r = x := by
  obtain ⟨i, c, hi, _, rfl⟩ := hr
  obtain ⟨j, d, hj, _, rfl⟩ := hx
  have hij : i = j := by
    rw [← toNat_seq hfew hi, ← toNat_seq hfew hj, hseq]
  subst hij
  cases hi.symm.trans hj
  rfl

theorem hasSent_of_append {d : Call} (hcalls : s'.calls = s.calls ++ [d])
    (hd : d.stage.isHandedOver = false) (r : Request) : s'.HasSent r ↔ s.HasSent r := by
  constructor
  · rintro ⟨i, c, hi, hc, hr⟩
    rw [hcalls] at hi
    rcases getElem?_append_singleton hi with hi | ⟨_, rfl⟩
    · exact ⟨i, c, hi, hc, hr⟩
    · rw [hd] at hc
      cases hc
  · rintro ⟨i, c, hi, hc, hr⟩
    refine ⟨i, c, ?_, hc, hr⟩
    rw [hcalls, List.getElem?_append_left (List.getElem?_eq_some_iff.mp hi).1, hi]

/-- A call changes that keeps its request; it may have been handed over now. -/
theorem hasSent_of_modify {i : Nat} {c : Call} {f : Call → Call} (hi : s.calls[i]? = some c)
    (hcalls : s'.calls = s.calls.modify i f) (hrequest : (f c).request i = c.request i)
    (hstage : c.stage.isHandedOver = true → (f c).stage.isHandedOver = true) (r : Request) :
    s'.HasSent r ↔ s.HasSent r ∨ (f c).stage.isHandedOver = true ∧ r = c.request i := by
  have hnew : s'.calls[i]? = some (f c) := by
    rw [hcalls, List.getElem?_modify_eq, hi]
    rfl
  constructor
  · rintro ⟨j, d, hj, hd, rfl⟩
    by_cases hij : i = j
    · subst hij
      cases hnew.symm.trans hj
      exact Or.inr ⟨hd, hrequest⟩
    · rw [hcalls, List.getElem?_modify_ne _ _ hij] at hj
      exact Or.inl ⟨j, d, hj, hd, rfl⟩
  · rintro (⟨j, d, hj, hd, rfl⟩ | ⟨hsent, rfl⟩)
    · by_cases hij : i = j
      · subst hij
        cases hi.symm.trans hj
        exact ⟨i, f c, hnew, hstage hd, hrequest⟩
      · refine ⟨j, d, ?_, hd, rfl⟩
        rw [hcalls, List.getElem?_modify_ne _ _ hij, hj]
    · exact ⟨i, f c, hnew, hsent, hrequest⟩

/-- A call that is handed over afterwards as much as before. -/
theorem hasSent_of_same {i : Nat} {c : Call} {f : Call → Call} (hi : s.calls[i]? = some c)
    (hcalls : s'.calls = s.calls.modify i f) (hrequest : (f c).request i = c.request i)
    (hstage : (f c).stage.isHandedOver = c.stage.isHandedOver) (r : Request) :
    s'.HasSent r ↔ s.HasSent r := by
  rw [hasSent_of_modify hi hcalls hrequest (fun h => hstage.trans h)]
  constructor
  · rintro (hr | ⟨hsent, rfl⟩)
    · exact hr
    · exact ⟨i, c, hi, hstage ▸ hsent, rfl⟩
  · exact Or.inl

theorem hasSent_of_eq (hcalls : s'.calls = s.calls) (r : Request) : s'.HasSent r ↔ s.HasSent r := by
  rw [State.HasSent, State.HasSent, hcalls]

/-- A call that is not handed over yet has not sent its request under another number either. -/
theorem not_hasSent {i : Nat} {c : Call} (hfew : s.calls.length ≤ 2 ^ 64)
    (hi : s.calls[i]? = some c) (hstage : c.stage.isHandedOver = false) :
    ¬ s.HasSent (c.request i) := by
  rintro ⟨j, d, hj, hd, heq⟩
  have hij : i = j := by
    rw [← toNat_seq hfew hi, ← toNat_seq hfew hj, heq]
  subst hij
  cases hi.symm.trans hj
  rw [hstage] at hd
  cases hd

/-! ## What a position tells -/

section Position

variable {table : Pending} {todo : List Act} {i : Nat} {c : Call}

theorem Position.of_registered (h : Position answer table todo i c)
    (hstage : c.stage = .registered) : c.slot = none ∧ table.Expects i := by
  cases h with
  | registered _ hslot hexpects => exact ⟨hslot, hexpects⟩
  | queueing hother _ _ => cases hstage.symm.trans hother
  | waiting hother _ _ => cases hstage.symm.trans hother
  | owed hother _ _ _ => cases hstage.symm.trans hother
  | settled hother _ _ => cases hstage.symm.trans hother
  | finished hother _ => cases hstage.symm.trans hother

theorem Position.of_queueing {body : Bytes} (h : Position answer table todo i c)
    (hstage : c.stage = .queueing body) :
    body = (c.request i).body ∧ c.slot = none ∧ table.Expects i := by
  cases h with
  | registered hother _ _ => cases hstage.symm.trans hother
  | queueing hqueue hslot hexpects =>
    cases hstage.symm.trans hqueue
    exact ⟨rfl, hslot, hexpects⟩
  | waiting hother _ _ => cases hstage.symm.trans hother
  | owed hother _ _ _ => cases hstage.symm.trans hother
  | settled hother _ _ => cases hstage.symm.trans hother
  | finished hother _ => cases hstage.symm.trans hother

/-- What a waiting caller finds in its slot is the answer. -/
theorem Position.of_slot {outcome : Outcome} (h : Position answer table todo i c)
    (hstage : c.stage = .waiting) (hslot : c.slot = some outcome) :
    outcome = answer (c.request i) ∧ ¬ table.Expects i := by
  cases h with
  | registered hother _ _ => cases hstage.symm.trans hother
  | queueing hother _ _ => cases hstage.symm.trans hother
  | waiting _ hother _ => cases hslot.symm.trans hother
  | owed _ hother _ _ => cases hslot.symm.trans hother
  | settled _ hsettled hnot =>
    cases hslot.symm.trans hsettled
    exact ⟨rfl, hnot⟩
  | finished hother _ => cases hstage.symm.trans hother

/-- A call that was handed over and still expects a response waits with an empty slot. -/
theorem Position.of_expects (h : Position answer table todo i c)
    (hstage : c.stage.isHandedOver = true) (hexpects : table.Expects i) :
    c.stage = .waiting ∧ c.slot = none := by
  cases h with
  | registered hreg _ _ =>
    rw [hreg] at hstage
    cases hstage
  | queueing hqueue _ _ =>
    rw [hqueue] at hstage
    cases hstage
  | waiting hwaiting hslot _ => exact ⟨hwaiting, hslot⟩
  | owed _ _ hgone _ => exact absurd hexpects hgone
  | settled _ _ hgone => exact absurd hexpects hgone
  | finished _ hgone => exact absurd hexpects hgone

/-- A call that expects nothing any more takes its answer, unless it has finished. -/
theorem Position.settle (h : Position answer table todo i c) (hnot : ¬ table.Expects i) :
    Position answer table [] i
      (if c.isOpen then { c with slot := some (answer (c.request i)) } else c) := by
  cases h with
  | registered _ _ hexpects => exact absurd hexpects hnot
  | queueing _ _ hexpects => exact absurd hexpects hnot
  | waiting _ _ hexpects => exact absurd hexpects hnot
  | owed hstage _ _ _ =>
    rw [if_pos (by rw [Call.isOpen, hstage])]
    exact .settled hstage rfl hnot
  | settled hstage _ _ =>
    rw [if_pos (by rw [Call.isOpen, hstage])]
    exact .settled hstage rfl hnot
  | finished hstage _ =>
    rw [if_neg (by simp [Call.isOpen, hstage])]
    exact .finished hstage hnot

end Position

/-! ## Calls stay on course -/

/-- A position depends on the table only as far as the call itself is concerned. -/
theorem Position.congr {table table' : Pending} {todo : List Act} {i : Nat} {c : Call}
    (h : Position answer table todo i c) (htable : table'.Expects i ↔ table.Expects i) :
    Position answer table' todo i c := by
  cases h with
  | registered hstage hslot hexpects => exact .registered hstage hslot (htable.mpr hexpects)
  | queueing hstage hslot hexpects => exact .queueing hstage hslot (htable.mpr hexpects)
  | waiting hstage hslot hexpects => exact .waiting hstage hslot (htable.mpr hexpects)
  | owed hstage hslot hnot htodo => exact .owed hstage hslot (hnot ∘ htable.mp) htodo
  | settled hstage hslot hnot => exact .settled hstage hslot (hnot ∘ htable.mp)
  | finished hstage hnot => exact .finished hstage (hnot ∘ htable.mp)

/-- A position depends on what the reader has to do only if that is about the call itself. -/
theorem Position.of_todo {table : Pending} {todo todo' : List Act} {i : Nat} {c : Call}
    (h : Position answer table todo i c) (htodo : todo ≠ [.settle i (answer (c.request i))]) :
    Position answer table todo' i c := by
  cases h with
  | registered hstage hslot hexpects => exact .registered hstage hslot hexpects
  | queueing hstage hslot hexpects => exact .queueing hstage hslot hexpects
  | waiting hstage hslot hexpects => exact .waiting hstage hslot hexpects
  | owed _ _ _ heq => exact absurd heq htodo
  | settled hstage hslot hnot => exact .settled hstage hslot hnot
  | finished hstage hnot => exact .finished hstage hnot

/-- One call moves on, and table and reader stay as they are. -/
theorem OnCourse.move {i : Nat} {c : Call} {f : Call → Call} (h : OnCourse answer s)
    (hi : s.calls[i]? = some c) (hseq : (f c).seq = c.seq)
    (hrequest : (f c).request i = c.request i)
    (hposition : Position answer s.pending s.reader.todo i (f c)) (hpending : s'.pending = s.pending)
    (htodo : s'.reader.todo = s.reader.todo) (hcalls : s'.calls = s.calls.modify i f) :
    OnCourse answer s' := by
  have hlength : s'.calls.length = s.calls.length := by rw [hcalls, List.length_modify]
  have hnew : s'.calls[i]? = some (f c) := by
    rw [hcalls, List.getElem?_modify_eq, hi]
    rfl
  have hothers : ∀ j, i ≠ j → s'.calls[j]? = s.calls[j]? := by
    intro j hij
    rw [hcalls, List.getElem?_modify_ne _ _ hij]
  refine ⟨?_, ?_, ?_, ?_, ?_⟩
  · rw [hpending, hlength, h.next]
  · rw [hpending, hlength]
    exact h.entries
  · intro j d hj
    by_cases hij : i = j
    · subst hij
      cases hnew.symm.trans hj
      exact hseq.trans (h.seq hi)
    · exact h.seq ((hothers j hij).symm.trans hj)
  · intro j d hj
    rw [hpending, htodo]
    by_cases hij : i = j
    · subst hij
      cases hnew.symm.trans hj
      exact hposition
    · exact h.position ((hothers j hij).symm.trans hj)
  · rw [Delivers, htodo, hpending]
    rcases h.delivers with hnil | ⟨j, d, hj, hnot, hact⟩
    · exact Or.inl hnil
    · by_cases hij : i = j
      · subst hij
        cases hi.symm.trans hj
        exact Or.inr ⟨i, f c, hnew, hnot, by rw [hrequest, hact]⟩
      · exact Or.inr ⟨j, d, (hothers j hij).trans hj, hnot, hact⟩

/-- A new call. -/
theorem OnCourse.call {d : Call} (h : OnCourse answer s) (hseq : d.seq = some s.calls.length)
    (hstage : d.stage = .registered) (hslot : d.slot = none)
    (hcalls : s'.calls = s.calls ++ [d]) (hnext : s'.pending.nextSeq = s.pending.nextSeq + 1)
    (hentries : s'.pending.entries
      = s.pending.entries ++ [⟨s.calls.length, s.calls.length⟩])
    (htodo : s'.reader.todo = s.reader.todo) : OnCourse answer s' := by
  have hlength : s'.calls.length = s.calls.length + 1 := by
    rw [hcalls, List.length_append, List.length_singleton]
  have hold : ∀ {i : Nat} {c : Call}, s.calls[i]? = some c → s'.calls[i]? = some c ∧
      (s'.pending.Expects i ↔ s.pending.Expects i) := by
    intro i c hi
    have hlt := (List.getElem?_eq_some_iff.mp hi).1
    refine ⟨by rw [hcalls, List.getElem?_append_left hlt, hi], ?_⟩
    rw [Pending.Expects, Pending.Expects, hentries, List.mem_append, List.mem_singleton]
    refine ⟨?_, Or.inl⟩
    rintro (hmem | heq)
    · exact hmem
    · cases heq
      exact absurd hlt (Nat.lt_irrefl _)
  refine ⟨?_, ?_, ?_, ?_, ?_⟩
  · rw [hnext, hlength, h.next]
  · intro e he
    rw [hlength]
    rw [hentries] at he
    rcases List.mem_append.mp he with he | he
    · obtain ⟨heq, hlt⟩ := h.entries e he
      exact ⟨heq, by omega⟩
    · cases List.mem_singleton.mp he
      exact ⟨rfl, Nat.lt_succ_self _⟩
  · intro i c hi
    rw [hcalls] at hi
    rcases getElem?_append_singleton hi with hi | ⟨rfl, rfl⟩
    · exact h.seq hi
    · exact hseq
  · intro i c hi
    rw [htodo]
    rw [hcalls] at hi
    rcases getElem?_append_singleton hi with hi | ⟨rfl, rfl⟩
    · exact (h.position hi).congr (hold hi).2
    · refine .registered hstage hslot ?_
      rw [Pending.Expects, hentries]
      exact List.mem_append_right _ (List.mem_singleton_self _)
  · rw [Delivers, htodo]
    rcases h.delivers with hnil | ⟨i, c, hi, hnot, hact⟩
    · exact Or.inl hnil
    · exact Or.inr ⟨i, c, (hold hi).1, hnot ∘ (hold hi).2.mp, hact⟩

theorem find_of_expects {n : Nat} (h : OnCourse answer s) (hexpects : s.pending.Expects n) :
    s.pending.find n = some ⟨n, n⟩ := by
  cases hfind : s.pending.find n with
  | none =>
    have hne := List.find?_eq_none.mp hfind _ hexpects
    exact absurd (decide_eq_true rfl) hne
  | some e =>
    have hseq : e.seq = n := by simpa using List.find?_some hfind
    have hcall := (h.entries e (List.mem_of_find?_eq_some hfind)).1
    rw [hseq] at hcall
    cases e
    simp only at hseq hcall
    rw [hseq, ← hcall]

theorem expects_remove (p : Pending) (n m : Nat) :
    (p.remove n).Expects m ↔ p.Expects m ∧ m ≠ n := by
  rw [Pending.Expects, Pending.remove, List.mem_filter, Pending.Expects, decide_eq_true_iff]

/-- The reader finds the response to a call. -/
theorem OnCourse.receive {i : Nat} {c : Call} (h : OnCourse answer s) (hi : s.calls[i]? = some c)
    (hstage : c.stage.isHandedOver = true) (hexpects : s.pending.Expects i)
    (hnil : s.reader.todo = []) (hcalls : s'.calls = s.calls)
    (hpending : s'.pending = s.pending.remove i)
    (htodo : s'.reader.todo = [.settle i (answer (c.request i))]) : OnCourse answer s' := by
  refine ⟨?_, ?_, ?_, ?_, ?_⟩
  · rw [hpending, hcalls]
    exact h.next
  · intro e he
    rw [hpending] at he
    rw [hcalls]
    exact h.entries e (List.mem_filter.mp he).1
  · rw [hcalls]
    exact h.seq
  · intro j d hj
    rw [hcalls] at hj
    have hposition := h.position hj
    rw [hnil] at hposition
    rw [hpending, htodo]
    by_cases hij : j = i
    · subst hij
      cases hi.symm.trans hj
      have hnot : ¬ (s.pending.remove j).Expects j := by
        rw [expects_remove]
        exact fun h => h.2 rfl
      obtain ⟨hwaiting, hslot⟩ := hposition.of_expects hstage hexpects
      exact .owed hwaiting hslot hnot rfl
    · refine (hposition.of_todo (by simp)).congr ?_
      rw [expects_remove]
      exact and_iff_left hij
  · refine Or.inr ⟨i, c, by rw [hcalls, hi], ?_, htodo⟩
    rw [hpending, expects_remove]
    exact fun h => h.2 rfl

/-- The reader gives a call its answer. -/
theorem OnCourse.settle {i : Nat} {outcome : Outcome} (h : OnCourse answer s)
    (hact : s.reader.todo = [.settle i outcome]) (hpending : s'.pending = s.pending)
    (hcalls : s'.calls = (s.settle i outcome).calls) (htodo : s'.reader.todo = []) :
    OnCourse answer s' := by
  rcases h.delivers with hnil | ⟨j, c, hi, hnot, hdelivers⟩
  · rw [hnil] at hact
    cases hact
  · rw [hact] at hdelivers
    obtain ⟨rfl, rfl⟩ : i = j ∧ outcome = answer (c.request j) := by
      simpa using hdelivers
    refine ⟨?_, ?_, ?_, ?_, Or.inl htodo⟩
    · rw [hpending, hcalls, h.next]
      exact (List.length_modify _ _ _).symm
    · rw [hpending, hcalls]
      intro e he
      show e.seq = e.call ∧ e.call < (s.calls.modify _ _).length
      rw [List.length_modify]
      exact h.entries e he
    · intro j d hj
      rw [hcalls] at hj
      obtain ⟨e, he, rfl⟩ := getElem?_modify_eq_some hj
      have hseq := h.seq he
      split
      · split
        · exact hseq
        · exact hseq
      · exact hseq
    · intro j d hj
      rw [hpending, htodo]
      rw [hcalls] at hj
      obtain ⟨e, he, rfl⟩ := getElem?_modify_eq_some hj
      have hposition := h.position he
      by_cases hij : i = j
      · subst hij
        cases hi.symm.trans he
        rw [if_pos rfl]
        exact hposition.settle hnot
      · rw [if_neg hij]
        -- what the reader did was about another call
        refine hposition.of_todo ?_
        rw [hact]
        intro heq
        have hsame : i = j := by
          simp only [List.cons.injEq, Act.settle.injEq] at heq
          exact heq.1.1
        exact hij hsame

end RemoteCall.Client
