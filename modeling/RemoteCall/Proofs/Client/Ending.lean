import RemoteCall.Proofs.Client.Change
import RemoteCall.Proofs.Run

/-!
# What ends a client

The connection may fail under the reader or under the writer, somebody may close the client, and
its last user may let go of it.  Whoever does one of these takes all calls off the table in one
step, and is then bound to say so and to settle the calls one by one.

`State.ending` tells which steps these are.  `Ends` is all that such a step does to the calls, and
`Continues` is what every other step leaves alone: the table stays as open as it was, and what was
to be announced is announced or still to be announced.  `ends_of_step` and `continues_of_step` say
that there is nothing else.

Both keep one fact about closers that their part in the end rests on: a closer who has gone on has
nothing left to do (`State.Focused`).
-/

namespace RemoteCall.Client

/-! ## Endings -/

/-- What ends a client. -/
inductive Ending
  /-- The reader or the writer found that the connection had failed. -/
  | failed (cause : LinkError)
  /-- Somebody closed the client. -/
  | closed
  /-- The last user let go of the client. -/
  | dropped
  deriving DecidableEq, Repr

namespace Ending

/-- What an ending means to a call that it takes off the table. -/
def outcome : Ending → Outcome
  | failed cause => .error (.lost cause.message)
  | closed => .error .closed
  | dropped => .error .closed

/-- How an ending that takes so many calls off the table is announced.  A peer that went away in
good order is not reported as an error. -/
def reports (setup : Setup) (drained : Nat) : Ending → List Event
  | failed cause =>
    let error := if cause = .closed then none else some cause.message
    [.clientShutdown setup.peer drained error]
  | closed => [.clientShutdown setup.peer drained none]
  | dropped => []

/-- What whoever ends the client is bound to do.  A connection that fails under a client that has
ended already is of no interest. -/
def acts (setup : Setup) (s : State) : Ending → List Act
  | failed cause => s.failureActs setup cause
  | closed => .announce (s.shutdownEvent setup none) :: s.settleAll (.error .closed)
  | dropped => s.settleAll (.error .closed)

end Ending

namespace State

/-- The failure of the connection that a step meets. -/
def failure (setup : Setup) (s : State) : Label → Option LinkError
  | .receive =>
    match Frame.scan setup.frameLimit s.inbox with
    | .frame body _ =>
      match Envelope.decode body with
      | .ok _ => none
      | .error cause => some cause
    | .tooLarge length _ => some (Frame.overLimit length setup.frameLimit)
    | .short => if s.inputEnded then some .closed else none
  | .failReceive cause => some cause
  | .failWrite cause => some cause
  | _ => none

/-- The ending that a step is, if it is one. -/
def ending (setup : Setup) (s : State) : Label → Option Ending
  | .close => some .closed
  | .drop => some .dropped
  | label => (s.failure setup label).map .failed

end State

/-! ## What is announced -/

/-- The announcement that somebody is bound to make. -/
def Act.report? : Act → Option Event
  | .announce (.clientShutdown peer pending error) => some (.clientShutdown peer pending error)
  | _ => none

/-- The announcement that is made. -/
def Effect.report? : Effect → Option Event
  | .event (.clientShutdown peer pending error) => some (.clientShutdown peer pending error)
  | _ => none

/-- The announcements among what is shown. -/
def reports (shown : List Effect) : List Event :=
  shown.filterMap Effect.report?

/-- The announcements that are still to be made. -/
def State.unreported (s : State) : List Event :=
  s.todo.filterMap Act.report?

variable {setup : Setup} {s s' : State} {label : Label} {shown : List Effect}

theorem report?_perform (s : State) (act : Act) :
    reports (s.perform act).2 = act.report?.toList := by
  cases act with
  | announce event => cases event <;> rfl
  | settle i outcome => rfl

theorem report?_settleAll (s : State) (outcome : Outcome) :
    (s.settleAll outcome).filterMap Act.report? = [] := by
  rw [State.settleAll, List.filterMap_map, List.filterMap_eq_nil_iff]
  intro e _
  rfl

theorem unreported_perm {acts : List Act} (h : s'.todo.Perm (acts ++ s.todo)) :
    s'.unreported.Perm (acts.filterMap Act.report? ++ s.unreported) := by
  have hperm := h.filterMap Act.report?
  rwa [List.filterMap_append] at hperm

/-! ## Steps that do not end the client -/

/-- A closer that has gone on has settled everything. -/
def Closer.IsFocused (c : Closer) : Prop :=
  c.stage ≠ .settling → c.todo = []

/-- No closer goes on before it has settled everything. -/
def State.Focused (s : State) : Prop :=
  ∀ (k : Nat) (c : Closer), s.closers[k]? = some c → c.IsFocused

/-- What a step that does not end the client leaves alone. -/
structure Continues (s s' : State) (shown : List Effect) : Prop where
  shut : s'.pending.shut = s.pending.shut
  focused : s.Focused → s'.Focused
  reports : (reports shown ++ s'.unreported).Perm s.unreported

theorem focused_of_eq (h : s'.closers = s.closers) (hs : s.Focused) : s'.Focused := by
  intro k c hk
  exact hs k c (h ▸ hk)

theorem focused_setCloser {k : Nat} {c : Closer} (hc : c.IsFocused) (hs : s.Focused) :
    (s.setCloser k c).Focused := by
  intro j d hj
  have hset : (s.closers.set k c)[j]? = some d := hj
  rcases List.mem_or_eq_of_mem_set (List.mem_of_getElem? hset) with hmem | rfl
  · obtain ⟨i, hi⟩ := List.getElem?_of_mem hmem
    exact hs i d hi
  · exact hc

/-- Where nobody takes on an act and nobody does one, all is left alone. -/
theorem Continues.of_eq (hshut : s'.pending.shut = s.pending.shut)
    (hclosers : s'.closers = s.closers) (htodo : s'.todo = s.todo)
    (hshown : Client.reports shown = []) : Continues s s' shown := by
  refine ⟨hshut, focused_of_eq hclosers, List.Perm.of_eq ?_⟩
  rw [hshown, State.unreported, htodo]
  rfl

/-- To owe an outcome is not to owe an announcement. -/
theorem Continues.of_owed (i : Nat) (outcome : Outcome) (hshut : s'.pending.shut = s.pending.shut)
    (hclosers : s'.closers = s.closers)
    (htodo : s'.todo.Perm ([.settle i outcome] ++ s.todo)) : Continues s s' [] :=
  ⟨hshut, focused_of_eq hclosers, unreported_perm htodo⟩

/-- A closer goes on from where it has nothing left to do. -/
theorem continues_setCloser {k : Nat} {todo : List Act} {old : CloserStage} (stage : CloserStage)
    (hk : s.closers[k]? = some ⟨todo, old⟩) (hdone : s.Focused → todo = []) :
    Continues s (s.setCloser k ⟨todo, stage⟩) [] := by
  refine ⟨rfl, fun hs => focused_setCloser (fun _ => hdone hs) hs, List.Perm.of_eq ?_⟩
  show (s.setCloser k ⟨todo, stage⟩).unreported = s.unreported
  rw [State.unreported, todo_setCloser_eq hk, State.unreported]

theorem Continues.congr {t : State} (h : Continues s s' shown)
    (hshut : t.pending.shut = s'.pending.shut) (hclosers : t.closers = s'.closers)
    (htodo : t.todo = s'.todo) : Continues s t shown := by
  refine ⟨hshut.trans h.shut, fun hs => focused_of_eq hclosers (h.focused hs), ?_⟩
  rw [State.unreported, htodo]
  exact h.reports

theorem continues_perform {act : Act} {t : State} (h : t.perform act = (s', shown))
    (hperm : s.todo.Perm (act :: t.todo)) (hp : t.pending = s.pending)
    (hfocused : s.Focused → t.Focused) : Continues s s' shown := by
  have hshown : reports shown = act.report?.toList := by
    rw [← report?_perform t act, h]
  have hsame : s'.pending = t.pending ∧ s'.closers = t.closers ∧ s'.todo = t.todo := by
    cases act with
    | announce event =>
      cases h
      exact ⟨rfl, rfl, rfl⟩
    | settle i outcome =>
      cases h
      exact ⟨rfl, rfl, rfl⟩
  refine ⟨by rw [hsame.1, hp], fun hs => focused_of_eq hsame.2.1 (hfocused hs), ?_⟩
  have hreports := (hperm.filterMap Act.report?).symm
  rw [hshown, State.unreported, hsame.2.2]
  rw [List.filterMap_cons] at hreports
  cases hact : act.report? with
  | none =>
    rw [hact] at hreports
    exact hreports
  | some event =>
    rw [hact] at hreports
    exact hreports

theorem shut_forget (s : State) (c : Call) : (s.forget c).pending.shut = s.pending.shut := by
  rw [State.forget]
  split <;> rfl

theorem closers_forget (s : State) (c : Call) : (s.forget c).closers = s.closers := by
  rw [State.forget]
  split <;> rfl

/-- A caller that goes takes its entry along. -/
theorem continues_forget (s : State) (c : Call) (i : Nat) (stage : Stage) :
    Continues s ((s.forget c).setStage i stage) [] :=
  .of_eq (shut_forget s c) (closers_forget s c) (todo_forget s c) rfl

theorem continues_of_move (h : Move setup s label s' shown)
    (hnone : s.ending setup label = none) : Continues s s' shown := by
  cases h with
  | notFramed i c _ cause _ _ _ _ => exact continues_forget s c i _
  | notSubmitted i c _ _ _ _ _ _ => exact continues_forget s c i _
  | abandoned i c _ _ _ => exact continues_forget s c i _
  | answered body rest e entry hread _ _ _ =>
    exact .of_owed entry.call (State.outcomeOf e) rfl rfl (List.Perm.of_eq (todo_reader hread))
  | badFrame body rest cause _ hscan hdecode =>
    simp only [State.ending, State.failure, hscan, hdecode, Option.map_some] at hnone
    cases hnone
  | tooLarge length rest _ hscan =>
    simp only [State.ending, State.failure, hscan, Option.map_some] at hnone
    cases hnone
  | noMore _ hscan hended =>
    simp only [State.ending, State.failure, hscan, if_pos hended, Option.map_some] at hnone
    cases hnone
  | readFailed cause _ => cases hnone
  | readerDid act todo htodo hperform =>
    exact continues_perform hperform (List.Perm.of_eq (todo_readerAct htodo)) rfl
      (focused_of_eq rfl)
  | dequeued _ _ _ _ hwriter _ _ =>
    exact .of_eq rfl rfl (todo_writer_eq (by rw [hwriter])) rfl
  | oversized seq body items cause entry hwriter _ _ _ =>
    exact .of_owed entry.call (.error (.link cause)) rfl rfl (todo_writer (by rw [hwriter]))
  | toldToClose _ hwriter _ => exact .of_eq rfl rfl (todo_writer_eq (by rw [hwriter])) rfl
  | leftAlone hwriter _ _ => exact .of_eq rfl rfl (todo_writer_eq (by rw [hwriter])) rfl
  | wrote _ _ _ hwriter _ => exact .of_eq rfl rfl (todo_writer_eq (by rw [hwriter])) rfl
  | wroteLast _ _ _ hwriter => exact .of_eq rfl rfl (todo_writer_eq (by rw [hwriter])) rfl
  | writeFailed cause _ _ _ => cases hnone
  | writerDid act todo htodo hperform =>
    exact continues_perform hperform (todo_writerAct htodo) rfl (focused_of_eq rfl)
  | outputEnded hwriter => exact .of_eq rfl rfl (todo_writer_eq (by rw [hwriter])) rfl
  | retired hwriter => exact .of_eq rfl rfl (todo_writer_eq (by rw [hwriter])) rfl
  | closed _ => cases hnone
  | closerDid k act todo stage hk hperform =>
    have hperm := @todo_setCloser s k _ [act] todo stage hk rfl
    refine continues_perform hperform hperm rfl ?_
    -- a closer that still has an act is settling
    intro hs
    refine focused_setCloser (fun hstage => ?_) hs
    cases hs k _ hk hstage
  | readerAborted k hk => exact (continues_setCloser .queueing hk fun _ => rfl).congr rfl rfl rfl
  | closeSubmitted k todo hk _ _ =>
    exact (continues_setCloser .waiting hk fun hs => hs k _ hk (by simp)).congr rfl rfl rfl
  | closeNotSubmitted k todo hk _ =>
    exact continues_setCloser .returned hk fun hs => hs k _ hk (by simp)
  | closeReturned k todo hk _ =>
    exact continues_setCloser .returned hk fun hs => hs k _ hk (by simp)
  | dropped _ _ => cases hnone
  | dropperDid act todo htodo hperform =>
    exact continues_perform hperform (todo_dropped htodo) rfl (focused_of_eq rfl)
  | _ => exact .of_eq rfl rfl rfl rfl

/-- **Steps that do not end the client** leave the table as open as it was, and lose no
announcement. -/
theorem continues_of_step (h : step setup s label = some (s', shown))
    (hnone : s.ending setup label = none) : Continues s s' shown :=
  continues_of_move (move_of_step h) hnone

/-! ## Steps that end the client -/

/-- What a step that ends the client does. -/
structure Ends (setup : Setup) (s : State) (ending : Ending) (s' : State) (shown : List Effect) :
    Prop where
  pending : s'.pending = s.pending.shutDown
  calls : s'.calls = s.calls
  todo : s'.todo.Perm (ending.acts setup s ++ s.todo)
  focused : s.Focused → s'.Focused
  shown : shown = []

theorem ends_close : Ends setup s .closed (s.close setup) [] := by
  refine ⟨rfl, rfl, todo_close setup s, ?_, rfl⟩
  intro hs k c hk
  rcases getElem?_append_singleton hk with hk | ⟨_, rfl⟩
  · exact hs k c hk
  · intro hstage
    exact absurd rfl hstage

theorem ends_failReader (hread : s.isReading = true) (cause : LinkError) (rest : Bytes) :
    Ends setup s (.failed cause) (State.failReader setup { s with inbox := rest } cause) [] :=
  ⟨rfl, rfl, List.Perm.of_eq (todo_reader hread), focused_of_eq rfl, rfl⟩

theorem ends_of_move {ending : Ending} (hs : s.Regular) (h : Move setup s label s' shown)
    (hends : s.ending setup label = some ending) : Ends setup s ending s' shown := by
  cases h with
  | stray body rest e _ hscan hdecode _ =>
    simp only [State.ending, State.failure, hscan, hdecode] at hends
    cases hends
  | answered body rest e entry _ hscan hdecode _ =>
    simp only [State.ending, State.failure, hscan, hdecode] at hends
    cases hends
  | badFrame body rest cause hread hscan hdecode =>
    simp only [State.ending, State.failure, hscan, hdecode] at hends
    cases hends
    exact ends_failReader hread cause rest
  | tooLarge length rest hread hscan =>
    simp only [State.ending, State.failure, hscan] at hends
    cases hends
    exact ends_failReader hread _ rest
  | noMore hread hscan hended =>
    simp only [State.ending, State.failure, hscan, if_pos hended] at hends
    cases hends
    exact ends_failReader hread .closed s.inbox
  | readFailed cause hread =>
    cases hends
    exact ends_failReader hread cause s.inbox
  | writeFailed cause todo left hwriter =>
    cases hends
    exact ⟨rfl, rfl, todo_writer (hs.focused left (by rw [hwriter])), focused_of_eq rfl, rfl⟩
  | closed _ =>
    cases hends
    exact ends_close
  | dropped _ hdropped =>
    cases hends
    exact ⟨rfl, rfl, todo_drop hdropped, focused_of_eq rfl, rfl⟩
  | _ => cases hends

/-- **Steps that end the client** take all calls off the table, and leave everything else to be done
afterwards. -/
theorem ends_of_step {ending : Ending} (hs : s.Regular)
    (h : step setup s label = some (s', shown)) (hends : s.ending setup label = some ending) :
    Ends setup s ending s' shown :=
  ends_of_move hs (move_of_step h) hends

/-- An ending is nobody's act. -/
theorem nextAct_of_ending {ending : Ending} (h : s.ending setup label = some ending) :
    s.nextAct label = none := by
  cases label with
  | readerAct => cases h
  | writerAct => cases h
  | closerAct k => cases h
  | dropperAct => cases h
  | _ => rfl

/-- The first ending is announced, and settles all that it took off the table. -/
theorem Ending.acts_of_open (ending : Ending) (hopen : s.pending.shut = false) :
    ending.acts setup s = (ending.reports setup s.pending.entries.length).map Act.announce
      ++ s.settleAll ending.outcome := by
  cases ending with
  | failed cause =>
    rw [Ending.acts, State.failureActs, if_neg (by simp [hopen])]
    rfl
  | closed => rfl
  | dropped => rfl

/-- A later ending finds the table empty, and only a closer still says so. -/
theorem Ending.acts_of_shut (ending : Ending) (hs : s.Regular) (hshut : s.pending.shut = true) :
    ending.acts setup s
      = if ending = .closed then [.announce (.clientShutdown setup.peer 0 none)] else [] := by
  have hnone : s.pending.entries = [] := hs.shut hshut
  cases ending with
  | failed cause => rw [Ending.acts, State.failureActs, if_pos hshut, if_neg (by simp)]
  | closed =>
    rw [Ending.acts, State.shutdownEvent, State.settleAll, hnone, if_pos rfl]
    rfl
  | dropped =>
    rw [Ending.acts, State.settleAll, hnone, if_neg (by simp)]
    rfl

end RemoteCall.Client
