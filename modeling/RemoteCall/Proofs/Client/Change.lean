import RemoteCall.Proofs.Client.Moves

/-!
# What a step of a client does to its calls

Five parties take calls off the table: the reader, the writer, closers, the last user, and callers
that give up.  For the calls it does not matter who it was.  `Change` lists what a step can do to
the table, to the calls and to the acts that the parties are bound to do, and nothing else of the
state is mentioned; `change_of_step` says that every step of the machine is one of these.  All that
is proved about calls is proved by cases on `Change`.

`State.todo` puts the acts of all parties together.  Two facts keep acts from getting lost where a
party takes on new ones (`State.Regular`): a table that was shut down is empty, and a writer in the
middle of a frame has nothing else to do.
-/

namespace RemoteCall.Client

/-! ## What the parties are bound to do -/

namespace State

/-- All that the parties are bound to do; the order among them does not matter. -/
def todo (s : State) : List Act :=
  s.reader.todo ++ (s.writer.todo ++ (s.closers.flatMap Closer.todo ++ s.dropped.getD []))

/-- The act that a step does. -/
def nextAct (s : State) : Label → Option Act
  | .readerAct => s.reader.todo.head?
  | .writerAct => s.writer.todo.head?
  | .closerAct k => s.closers[k]?.bind fun c => c.todo.head?
  | .dropperAct => s.dropped.bind List.head?
  | _ => none

/-- The envelope that a step takes from the connection. -/
def delivery (setup : Setup) (s : State) : Label → Option Envelope
  | .receive =>
    match Frame.scan setup.frameLimit s.inbox with
    | .frame body _ => (Envelope.decode body).toOption
    | _ => none
  | _ => none

end State

/-- A writer in the middle of a frame has nothing else to do. -/
def Writer.IsFocused (w : Writer) : Prop :=
  ∀ left, w.phase = .writing left → w.todo = []

/-- What keeps acts from getting lost. -/
structure State.Regular (s : State) : Prop where
  shut : s.pending.shut = true → s.pending.entries = []
  focused : s.writer.IsFocused

/-- Outcomes that no response can lead to: this side could not send the request, or it lost the
connection. -/
def isLocal : Outcome → Bool
  | .error (.link _) => true
  | .error .closed => true
  | .error (.lost _) => true
  | _ => false

/-- What comes in an envelope is never of that kind. -/
theorem isLocal_outcomeOf (e : Envelope) : isLocal (State.outcomeOf e) = false := by
  unfold State.outcomeOf
  split
  · cases e.header.kind <;> rfl
  · rfl

/-! ## The changes -/

/-- What a step can do to the calls, given the act that it does and the envelope that it takes. -/
inductive Change (s : State) : Option Act → Option Envelope → State → Prop
  /-- Nothing; an envelope that was taken has a number on which nobody waits. -/
  | idle {taken : Option Envelope} {s' : State} :
      (∀ e, taken = some e → s.pending.find e.header.seq.toNat = none) →
      s'.pending = s.pending → s'.calls = s.calls → s'.todo = s.todo → Change s none taken s'
  | began {s' : State} (method : String) (payload : Bytes) (keepsClient : Bool) :
      s.pending.shut = false →
      s'.pending = { s.pending with
        nextSeq := s.pending.nextSeq + 1
        entries := s.pending.entries ++ [⟨s.pending.nextSeq, s.calls.length⟩] } →
      s'.calls = s.calls ++
        [⟨method, payload, keepsClient, some s.pending.nextSeq, .registered, none⟩] →
      s'.todo = s.todo → Change s none none s'
  /-- A call was refused, as the table is shut down. -/
  | refused {s' : State} (method : String) (payload : Bytes) (keepsClient : Bool) :
      s'.pending = s.pending →
      s'.calls = s.calls ++ [⟨method, payload, keepsClient, none, .failed .closed, none⟩] →
      s'.todo = s.todo → Change s none none s'
  /-- A caller came further, and still waits. -/
  | moved {s' : State} (i : Nat) (c : Call) (stage : Stage) : s.calls[i]? = some c →
      c.isOpen = true → { c with stage := stage }.isOpen = true → s'.pending = s.pending →
      s'.calls = s.calls.modify i (fun c => { c with stage := stage }) → s'.todo = s.todo →
      Change s none none s'
  | collected {s' : State} (i : Nat) (c : Call) (outcome : Outcome) : s.calls[i]? = some c →
      c.isOpen = true → c.slot = some outcome → s'.pending = s.pending →
      s'.calls = s.calls.modify i (fun c => { c with stage := .finished outcome }) →
      s'.todo = s.todo → Change s none none s'
  /-- A caller failed or gave up. -/
  | left {s' : State} (i : Nat) (c : Call) (stage : Stage) : s.calls[i]? = some c →
      c.isOpen = true → { c with stage := stage }.isOpen = false →
      (∀ outcome, stage ≠ .finished outcome) → s'.pending = (s.forget c).pending →
      s'.calls = s.calls.modify i (fun c => { c with stage := stage }) → s'.todo = s.todo →
      Change s none none s'
  /-- A response was found to be that of a call. -/
  | answered {s' : State} (e : Envelope) (entry : Entry) :
      s.pending.find e.header.seq.toNat = some entry →
      s'.pending = s.pending.remove entry.seq → s'.calls = s.calls →
      s'.todo.Perm (.settle entry.call (State.outcomeOf e) :: s.todo) → Change s none (some e) s'
  /-- The frame of a call is over the limit. -/
  | oversized {s' : State} (seq : Nat) (entry : Entry) (cause : LinkError) :
      s.pending.find seq = some entry → s'.pending = s.pending.remove seq → s'.calls = s.calls →
      s'.todo.Perm (.settle entry.call (.error (.link cause)) :: s.todo) → Change s none none s'
  /-- All calls were taken off the table. -/
  | shut {s' : State} (events : List Event) (outcome : Outcome) : isLocal outcome = true →
      s'.pending = s.pending.shutDown → s'.calls = s.calls →
      s'.todo.Perm (events.map Act.announce ++ s.settleAll outcome ++ s.todo) →
      Change s none none s'
  /-- A party did what it was bound to do. -/
  | performed {s' : State} (act : Act) : s.todo.Perm (act :: s'.todo) →
      s'.pending = s.pending → s'.calls = (s.perform act).1.calls → Change s (some act) none s'

variable {setup : Setup} {s s' : State} {shown : List Effect}

/-! ## What is left of the acts -/

theorem todo_forget (s : State) (c : Call) : (s.forget c).todo = s.todo := by
  rw [State.forget]
  split <;> rfl

theorem calls_forget (s : State) (c : Call) : (s.forget c).calls = s.calls := by
  rw [State.forget]
  split <;> rfl

theorem writer_forget (s : State) (c : Call) : (s.forget c).writer = s.writer := by
  rw [State.forget]
  split <;> rfl

theorem reader_todo_of_isReading (h : s.isReading = true) : s.reader.todo = [] := by
  rw [State.isReading, Bool.and_eq_true] at h
  exact List.isEmpty_iff.mp h.2

/-- A reader that has nothing to do takes on some acts. -/
theorem todo_reader {reader : Reader} (hread : s.isReading = true) :
    { s with reader := reader }.todo = reader.todo ++ s.todo := by
  rw [State.todo, State.todo, reader_todo_of_isReading hread, List.nil_append]

/-- A writer that has nothing to do takes on some acts. -/
theorem todo_writer {writer : Writer} (hidle : s.writer.todo = []) :
    { s with writer := writer }.todo.Perm (writer.todo ++ s.todo) := by
  rw [State.todo, State.todo, hidle, List.nil_append]
  exact List.perm_append_comm_assoc _ _ _

/-- The writer goes on, and what it has to do stays as it is. -/
theorem todo_writer_eq {writer : Writer} (h : writer.todo = s.writer.todo) :
    { s with writer := writer }.todo = s.todo := by
  rw [State.todo, State.todo, h]

theorem todo_readerAct {act : Act} {todo : List Act} (h : s.reader.todo = act :: todo) :
    s.todo = act :: { s with reader := { s.reader with todo := todo } }.todo := by
  rw [State.todo, h]
  rfl

theorem todo_writerAct {act : Act} {todo : List Act} (h : s.writer.todo = act :: todo) :
    s.todo.Perm (act :: { s with writer := { s.writer with todo := todo } }.todo) := by
  rw [State.todo, h]
  exact List.perm_middle

/-- A closer that has done some of its acts. -/
theorem todo_setCloser {k : Nat} {c : Closer} {acts rest : List Act} {stage : CloserStage}
    (hk : s.closers[k]? = some c) (hc : c.todo = acts ++ rest) :
    s.todo.Perm (acts ++ (s.setCloser k ⟨rest, stage⟩).todo) := by
  -- the acts of closers stand in the middle of all acts, one closer behind the other
  have hflat : (s.closers.flatMap Closer.todo).Perm
      (acts ++ (s.closers.set k ⟨rest, stage⟩).flatMap Closer.todo) := by
    generalize s.closers = closers at hk
    induction closers generalizing k with
    | nil => cases hk
    | cons d closers ih =>
      cases k with
      | zero =>
        cases hk
        rw [List.set_cons_zero, List.flatMap_cons, List.flatMap_cons, hc, List.append_assoc]
      | succ k =>
        rw [List.set_cons_succ, List.flatMap_cons, List.flatMap_cons]
        exact (List.Perm.append_left _ (ih hk)).trans (List.perm_append_comm_assoc _ _ _)
  show (s.reader.todo ++ (s.writer.todo ++ (_ ++ _))).Perm
    (acts ++ (s.reader.todo ++ (s.writer.todo ++ (_ ++ _))))
  have hback := hflat.append_right (s.dropped.getD [])
  rw [List.append_assoc] at hback
  have hmid := (hback.append_left s.writer.todo).trans (List.perm_append_comm_assoc _ _ _)
  exact (hmid.append_left s.reader.todo).trans (List.perm_append_comm_assoc _ _ _)

theorem todo_setCloser_eq {k : Nat} {todo : List Act} {old stage : CloserStage}
    (hk : s.closers[k]? = some ⟨todo, old⟩) : (s.setCloser k ⟨todo, stage⟩).todo = s.todo := by
  have hflat : (s.closers.set k ⟨todo, stage⟩).flatMap Closer.todo
      = s.closers.flatMap Closer.todo := by
    generalize s.closers = closers at hk
    induction closers generalizing k with
    | nil => cases hk
    | cons d closers ih =>
      cases k with
      | zero =>
        cases hk
        rfl
      | succ k =>
        rw [List.set_cons_succ, List.flatMap_cons, List.flatMap_cons, ih hk]
  show s.reader.todo ++ (s.writer.todo ++
    ((s.closers.set k ⟨todo, stage⟩).flatMap Closer.todo ++ s.dropped.getD [])) = s.todo
  rw [hflat]
  rfl

theorem todo_close (setup : Setup) (s : State) : (s.close setup).todo.Perm
    (.announce (s.shutdownEvent setup none) :: s.settleAll (.error .closed) ++ s.todo) := by
  have hflat : (s.close setup).closers.flatMap Closer.todo
      = s.closers.flatMap Closer.todo ++
        (.announce (s.shutdownEvent setup none) :: s.settleAll (.error .closed)) := by
    show (s.closers ++ [_]).flatMap Closer.todo = _
    rw [List.flatMap_append, List.flatMap_cons, List.flatMap_nil, List.append_nil]
  show (s.reader.todo ++ (s.writer.todo ++
    ((s.close setup).closers.flatMap Closer.todo ++ s.dropped.getD []))).Perm _
  rw [hflat, State.todo, List.append_assoc]
  refine List.Perm.trans ?_ (List.perm_append_comm_assoc _ _ _)
  refine List.Perm.append_left _ ?_
  refine List.Perm.trans ?_ (List.perm_append_comm_assoc _ _ _)
  refine List.Perm.append_left _ ?_
  exact List.perm_append_comm_assoc _ _ _

theorem todo_dropped {act : Act} {todo : List Act} (htodo : s.dropped = some (act :: todo)) :
    s.todo.Perm (act :: { s with dropped := some todo }.todo) := by
  rw [State.todo, State.todo, htodo, Option.getD_some, Option.getD_some, ← List.append_assoc,
    ← List.append_assoc, ← List.append_assoc, ← List.append_assoc]
  exact List.perm_middle

/-- The last owner is gone: nobody has let go of the client before, so nothing is replaced. -/
theorem todo_drop (hdropped : s.dropped = none) :
    { s.shutDown with
      reader := { s.reader with abort := true }
      dropped := some (s.settleAll (.error .closed)) }.todo.Perm
        (s.settleAll (.error .closed) ++ s.todo) := by
  show (s.reader.todo ++ (s.writer.todo ++ (_ ++ s.settleAll (.error .closed)))).Perm _
  rw [State.todo, hdropped, Option.getD_none, List.append_nil, ← List.append_assoc,
    ← List.append_assoc]
  exact List.perm_append_comm.trans (List.Perm.of_eq (by rw [List.append_assoc]; rfl))

/-! ## All steps -/

/-- Nothing is changed, and nothing was taken from the connection. -/
theorem Change.quiet (hp : s'.pending = s.pending) (hc : s'.calls = s.calls)
    (ht : s'.todo = s.todo) : Change s none none s' :=
  .idle (fun _ h => by cases h) hp hc ht

/-- What a failure of the connection asks for, whoever notices it. -/
theorem failureActs_eq (hs : s.Regular) (setup : Setup) (cause : LinkError) :
    ∃ events : List Event, s.failureActs setup cause
      = events.map Act.announce ++ s.settleAll (.error (.lost cause.message)) := by
  unfold State.failureActs
  split
  · next hshut => exact ⟨[], by rw [State.settleAll, hs.shut hshut]; rfl⟩
  · exact ⟨[_], rfl⟩

/-- The connection fails. -/
theorem Change.failed {cause : LinkError} (hs : s.Regular)
    (hp : s'.pending = s.pending.shutDown) (hc : s'.calls = s.calls)
    (ht : s'.todo.Perm (s.failureActs setup cause ++ s.todo)) : Change s none none s' := by
  obtain ⟨events, hacts⟩ := failureActs_eq hs setup cause
  rw [hacts] at ht
  exact .shut events (.error (.lost cause.message)) rfl hp hc ht

/-- A caller fails or gives up, and takes its entry along. -/
theorem change_left {i : Nat} {c : Call} {stage : Stage} (hi : s.calls[i]? = some c)
    (hopen : c.isOpen = true) (hstage : { c with stage := stage }.isOpen = false)
    (hfin : ∀ outcome, stage ≠ .finished outcome) :
    Change s none none ((s.forget c).setStage i stage) := by
  refine .left i c stage hi hopen hstage hfin rfl ?_ (todo_forget s c)
  show (s.forget c).calls.modify i _ = _
  rw [calls_forget]

/-- The acts of a party that are left after its next one are those of the others and its own. -/
theorem change_perform {act : Act} {t : State} (h : t.perform act = (s', shown))
    (hperm : s.todo.Perm (act :: t.todo)) (hp : t.pending = s.pending) (hc : t.calls = s.calls) :
    Change s (some act) none s' := by
  cases act with
  | announce event =>
    cases h
    exact .performed (.announce event) hperm hp hc
  | settle i outcome =>
    cases h
    refine .performed (.settle i outcome) hperm hp ?_
    show t.calls.modify i _ = s.calls.modify i _
    rw [hc]

theorem change_of_move {label : Label} (hs : s.Regular) (h : Move setup s label s' shown) :
    Change s (s.nextAct label) (s.delivery setup label) s' := by
  cases h with
  | began method payload keepsClient hfree =>
    exact .began method payload keepsClient hfree rfl rfl rfl
  | refused method payload keepsClient _ => exact .refused method payload keepsClient rfl rfl rfl
  | framed i c seq frame hi hstage _ _ =>
    exact .moved i c (.queueing frame) hi (by rw [Call.isOpen, hstage]) rfl rfl rfl rfl
  | notFramed i c seq cause hi hstage _ _ =>
    exact change_left hi (by rw [Call.isOpen, hstage]) rfl (fun _ hne => by cases hne)
  | submitted i c seq frame hi hstage _ _ _ =>
    exact .moved i c .waiting hi (by rw [Call.isOpen, hstage]) rfl rfl rfl rfl
  | notSubmitted i c seq frame hi hstage _ _ =>
    exact change_left hi (by rw [Call.isOpen, hstage]) rfl (fun _ hne => by cases hne)
  | collected i c outcome hi hstage hslot =>
    exact .collected i c outcome hi (by rw [Call.isOpen, hstage]) hslot rfl rfl rfl
  | abandoned i c hi hopen _ => exact change_left hi hopen rfl (fun _ hne => by cases hne)
  | arrived bytes _ => exact .quiet rfl rfl rfl
  | inputOver => exact .quiet rfl rfl rfl
  | stray body rest e _ hscan hdecode hfind =>
    have htaken : s.delivery setup .receive = some e := by
      simp only [State.delivery, hscan, hdecode, Except.toOption]
    rw [htaken]
    refine .idle (fun e' he => ?_) rfl rfl rfl
    cases he
    exact hfind
  | answered body rest e entry hread hscan hdecode hfind =>
    have htaken : s.delivery setup .receive = some e := by
      simp only [State.delivery, hscan, hdecode, Except.toOption]
    rw [htaken]
    exact .answered e entry hfind rfl rfl (List.Perm.of_eq (todo_reader hread))
  | badFrame body rest cause hread hscan hdecode =>
    have htaken : s.delivery setup .receive = none := by
      simp only [State.delivery, hscan, hdecode, Except.toOption]
    rw [htaken]
    exact .failed hs rfl rfl (List.Perm.of_eq (todo_reader hread))
  | tooLarge length rest hread hscan =>
    have htaken : s.delivery setup .receive = none := by simp only [State.delivery, hscan]
    rw [htaken]
    exact .failed hs rfl rfl (List.Perm.of_eq (todo_reader hread))
  | noMore hread hscan _ =>
    have htaken : s.delivery setup .receive = none := by simp only [State.delivery, hscan]
    rw [htaken]
    exact .failed hs rfl rfl (List.Perm.of_eq (todo_reader hread))
  | readFailed cause hread => exact .failed hs rfl rfl (List.Perm.of_eq (todo_reader hread))
  | readerDid act todo htodo hperform =>
    rw [State.nextAct, htodo]
    exact change_perform hperform (List.Perm.of_eq (todo_readerAct htodo)) rfl rfl
  | readerStopped _ _ => exact .quiet rfl rfl rfl
  | dequeued seq body frame items hwriter _ _ =>
    exact .quiet rfl rfl (todo_writer_eq (by rw [hwriter]))
  | oversizedStray seq body items cause _ _ _ _ => exact .quiet rfl rfl rfl
  | oversized seq body items cause entry hwriter _ _ hfind =>
    exact .oversized seq entry cause hfind rfl rfl (todo_writer (by rw [hwriter]))
  | toldToClose items hwriter _ => exact .quiet rfl rfl (todo_writer_eq (by rw [hwriter]))
  | leftAlone hwriter _ _ => exact .quiet rfl rfl (todo_writer_eq (by rw [hwriter]))
  | wrote n todo left hwriter _ => exact .quiet rfl rfl (todo_writer_eq (by rw [hwriter]))
  | wroteLast n todo left hwriter => exact .quiet rfl rfl (todo_writer_eq (by rw [hwriter]))
  | writeFailed cause todo left hwriter =>
    -- in the middle of a frame the writer has no acts that the failure could replace
    exact .failed hs rfl rfl (todo_writer (hs.focused left (by rw [hwriter])))
  | writerDid act todo htodo hperform =>
    rw [State.nextAct, htodo]
    exact change_perform hperform (todo_writerAct htodo) rfl rfl
  | outputEnded hwriter => exact .quiet rfl rfl (todo_writer_eq (by rw [hwriter]))
  | retired hwriter => exact .quiet rfl rfl (todo_writer_eq (by rw [hwriter]))
  | closed _ =>
    exact .shut [s.shutdownEvent setup none] (.error .closed) rfl rfl rfl (todo_close setup s)
  | closerDid k act todo stage hk hperform =>
    rw [State.nextAct, hk]
    exact change_perform hperform (@todo_setCloser s k _ [act] todo stage hk rfl) rfl rfl
  | readerAborted k hk => exact .quiet rfl rfl (@todo_setCloser_eq s k [] _ .queueing hk)
  | closeSubmitted k todo hk _ _ => exact .quiet rfl rfl (@todo_setCloser_eq s k todo _ .waiting hk)
  | closeNotSubmitted k todo hk _ => exact .quiet rfl rfl (todo_setCloser_eq hk)
  | closeReturned k todo hk _ => exact .quiet rfl rfl (todo_setCloser_eq hk)
  | released _ => exact .quiet rfl rfl rfl
  | dropped _ hdropped => exact .shut [] (.error .closed) rfl rfl rfl (todo_drop hdropped)
  | dropperDid act todo htodo hperform =>
    rw [State.nextAct, htodo]
    exact change_perform hperform (todo_dropped htodo) rfl rfl

theorem empty_of_shut_remove {p : Pending} {seq : Nat} (hp : p.shut = true → p.entries = [])
    (hshut : (p.remove seq).shut = true) : (p.remove seq).entries = [] := by
  rw [Pending.remove, hp hshut]
  rfl

theorem Change.empty_of_shut {act : Option Act} {taken : Option Envelope}
    (h : Change s act taken s') (hs : s.pending.shut = true → s.pending.entries = [])
    (hshut : s'.pending.shut = true) : s'.pending.entries = [] := by
  cases h with
  | idle _ hp _ _ => exact hp ▸ hs (hp ▸ hshut)
  | began _ _ _ hfree hp _ _ =>
    rw [hp] at hshut
    exact absurd hshut (by simp [hfree])
  | refused _ _ _ hp _ _ => exact hp ▸ hs (hp ▸ hshut)
  | moved _ _ _ _ _ _ hp _ _ => exact hp ▸ hs (hp ▸ hshut)
  | collected _ _ _ _ _ _ hp _ _ => exact hp ▸ hs (hp ▸ hshut)
  | left _ c _ _ _ _ _ hp _ _ =>
    rw [hp] at hshut ⊢
    rw [State.forget] at hshut ⊢
    split
    · next seq hseq =>
      rw [hseq] at hshut
      exact empty_of_shut_remove hs hshut
    · next hseq =>
      rw [hseq] at hshut
      exact hs hshut
  | answered _ _ _ hp _ _ => exact hp ▸ empty_of_shut_remove hs (hp ▸ hshut)
  | oversized _ _ _ _ hp _ _ => exact hp ▸ empty_of_shut_remove hs (hp ▸ hshut)
  | shut _ _ _ hp _ _ => rw [hp, Pending.shutDown]
  | performed _ _ hp _ => exact hp ▸ hs (hp ▸ hshut)

theorem writer_perform {act : Act} (h : s.perform act = (s', shown)) : s'.writer = s.writer := by
  cases act with
  | announce event =>
    cases h
    rfl
  | settle i outcome =>
    cases h
    rfl

/-- A writer that begins with a frame has nothing else to do. -/
theorem focused_of_move {label : Label} (hs : s.writer.IsFocused)
    (h : Move setup s label s' shown) : s'.writer.IsFocused := by
  cases h with
  | notFramed i c _ _ _ _ _ _ => exact (writer_forget s c).symm ▸ hs
  | notSubmitted i c _ _ _ _ _ _ => exact (writer_forget s c).symm ▸ hs
  | abandoned i c _ _ _ => exact (writer_forget s c).symm ▸ hs
  | readerDid act todo _ hperform => exact (writer_perform hperform).symm ▸ hs
  | dequeued _ _ _ _ _ _ _ => exact fun _ _ => rfl
  | oversized _ _ _ _ _ _ _ _ _ => exact fun _ hleft => by cases hleft
  | toldToClose _ _ _ => exact fun _ _ => rfl
  | leftAlone _ _ _ => exact fun _ _ => rfl
  | wrote n todo left hwriter _ =>
    have hempty := hs left (by rw [hwriter])
    rw [hwriter] at hempty
    exact fun _ _ => hempty
  | wroteLast n todo left hwriter => exact fun _ hleft => by cases hleft
  | writeFailed cause _ _ _ => exact fun _ hleft => by cases hleft
  | writerDid act todo htodo hperform =>
    -- a writer that has something to do is not in the middle of a frame
    intro left hleft
    rw [writer_perform hperform] at hleft
    have hnil := hs left hleft
    rw [htodo] at hnil
    cases hnil
  | outputEnded _ => exact fun _ _ => rfl
  | retired _ => exact fun _ _ => rfl
  | closerDid k act todo stage _ hperform => exact (writer_perform hperform).symm ▸ hs
  | dropperDid act todo _ hperform => exact (writer_perform hperform).symm ▸ hs
  | _ => exact hs

/-- **Every step is one of the changes**, and keeps the state regular. -/
theorem change_of_step {label : Label} (hs : s.Regular)
    (h : step setup s label = some (s', shown)) :
    Change s (s.nextAct label) (s.delivery setup label) s' ∧ s'.Regular := by
  have hmove := move_of_step h
  have hchange := change_of_move hs hmove
  exact ⟨hchange, hchange.empty_of_shut hs.shut, focused_of_move hs.focused hmove⟩

theorem regular_start : start.Regular :=
  ⟨fun h => (by cases h), fun _ h => by cases h⟩

end RemoteCall.Client
