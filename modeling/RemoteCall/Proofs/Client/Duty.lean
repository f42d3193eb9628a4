import RemoteCall.Proofs.Client.Ending

/-!
# Duty comes first

Whoever takes calls off the table is bound to settle them, and until that is done the callers wait.
Such a party, be it the reader, the writer, a closer or the last user, does nothing else before
(`dutiful_of_step`), and nobody can keep it from doing it (`able_of_duty`).
-/

namespace RemoteCall.Client

variable {setup : Setup} {s s' : State} {label : Label} {shown : List Effect}

/-- Those who may be bound to do something. -/
inductive Party
  | reader
  | writer
  | closer (k : Nat)
  /-- Whoever let go of the client last. -/
  | dropper
  deriving DecidableEq, Repr

/-- The party that takes a step; callers and the peer are never bound to do anything. -/
def Label.party? : Label → Option Party
  | .receive | .failReceive _ | .readerAct | .stopReader => some .reader
  | .dequeue | .write _ | .failWrite _ | .writerAct | .endOutput | .retire => some .writer
  | .closerAct k | .abortReader k | .submitClose k | .returnClose k => some (.closer k)
  | .drop | .dropperAct => some .dropper
  | _ => none

/-- What a party is bound to do, first act first. -/
def State.duty (s : State) : Party → List Act
  | .reader => s.reader.todo
  | .writer => s.writer.todo
  | .closer k => (s.closers[k]?.map Closer.todo).getD []
  | .dropper => s.dropped.getD []

/-- What is to be done is the duty of some party. -/
theorem mem_todo_iff {act : Act} : act ∈ s.todo ↔ ∃ p, act ∈ s.duty p := by
  have hclosers : act ∈ s.closers.flatMap Closer.todo ↔ ∃ k, act ∈ s.duty (.closer k) := by
    rw [List.mem_flatMap]
    constructor
    · rintro ⟨c, hc, hact⟩
      obtain ⟨k, hk⟩ := List.getElem?_of_mem hc
      refine ⟨k, ?_⟩
      rw [State.duty, hk]
      exact hact
    · rintro ⟨k, hact⟩
      rw [State.duty] at hact
      cases hk : s.closers[k]? with
      | none =>
        rw [hk] at hact
        cases hact
      | some c =>
        rw [hk] at hact
        exact ⟨c, List.mem_of_getElem? hk, hact⟩
  rw [State.todo, List.mem_append, List.mem_append, List.mem_append, hclosers]
  constructor
  · rintro (hact | hact | ⟨k, hact⟩ | hact)
    · exact ⟨.reader, hact⟩
    · exact ⟨.writer, hact⟩
    · exact ⟨.closer k, hact⟩
    · exact ⟨.dropper, hact⟩
  · rintro ⟨p, hact⟩
    cases p with
    | reader => exact Or.inl hact
    | writer => exact Or.inr (Or.inl hact)
    | closer k => exact Or.inr (Or.inr (Or.inl ⟨k, hact⟩))
    | dropper => exact Or.inr (Or.inr (Or.inr hact))

/-- A party can do its first act. -/
theorem able_of_duty (setup : Setup) {p : Party} {act : Act} {rest : List Act}
    (h : s.duty p = act :: rest) :
    ∃ label, (step setup s label).isSome = true ∧ s.nextAct label = some act := by
  cases p with
  | reader =>
    have htodo : s.reader.todo = act :: rest := h
    refine ⟨.readerAct, ?_, ?_⟩
    · rw [step, htodo]
      rfl
    · rw [State.nextAct, htodo]
      rfl
  | writer =>
    have htodo : s.writer.todo = act :: rest := h
    refine ⟨.writerAct, ?_, ?_⟩
    · rw [step, htodo]
      rfl
    · rw [State.nextAct, htodo]
      rfl
  | closer k =>
    rw [State.duty] at h
    cases hk : s.closers[k]? with
    | none =>
      rw [hk] at h
      cases h
    | some c =>
      obtain ⟨todo, stage⟩ := c
      rw [hk] at h
      have htodo : todo = act :: rest := h
      subst htodo
      refine ⟨.closerAct k, ?_, ?_⟩
      · rw [step, hk]
        rfl
      · rw [State.nextAct, hk]
        rfl
  | dropper =>
    rw [State.duty] at h
    cases hdropped : s.dropped with
    | none =>
      rw [hdropped] at h
      cases h
    | some todo =>
      rw [hdropped] at h
      have htodo : todo = act :: rest := h
      subst htodo
      refine ⟨.dropperAct, ?_, ?_⟩
      · rw [step, hdropped]
        rfl
      · rw [State.nextAct, hdropped]
        rfl

/-- **Duty comes first**: whatever a party does, it is the first of the acts that it is bound to do,
if there are any. -/
theorem dutiful_of_step {p : Party} (hs : s.Regular) (hf : s.Focused)
    (h : step setup s label = some (s', shown)) (hp : label.party? = some p) :
    s.nextAct label = (s.duty p).head? := by
  have hreader : s.isReading = true → none = s.reader.todo.head? := by
    intro hread
    rw [reader_todo_of_isReading hread]
    rfl
  have hcloser : ∀ {k : Nat} {todo : List Act} {stage : CloserStage}, todo = [] →
      s.closers[k]? = some ⟨todo, stage⟩ → none = (s.duty (.closer k)).head? := by
    intro k todo stage htodo hk
    rw [State.duty, hk, htodo]
    rfl
  have hwriting : ∀ {todo : List Act} {left : Bytes}, s.writer = ⟨todo, .writing left⟩ →
      none = s.writer.todo.head? := by
    intro todo left hwriter
    rw [hs.focused left (by rw [hwriter])]
    rfl
  cases move_of_step h with
  | stray _ _ _ hread _ _ _ =>
    cases hp
    exact hreader hread
  | answered _ _ _ _ hread _ _ _ =>
    cases hp
    exact hreader hread
  | badFrame _ _ _ hread _ _ =>
    cases hp
    exact hreader hread
  | tooLarge _ _ hread _ =>
    cases hp
    exact hreader hread
  | noMore hread _ _ =>
    cases hp
    exact hreader hread
  | readFailed _ hread =>
    cases hp
    exact hreader hread
  | readerDid _ _ _ _ =>
    cases hp
    rfl
  | readerStopped hread _ =>
    cases hp
    exact hreader hread
  | dequeued _ _ _ _ hwriter _ _ =>
    cases hp
    rw [State.duty, hwriter]
    rfl
  | oversizedStray _ _ _ _ hwriter _ _ _ =>
    cases hp
    rw [State.duty, hwriter]
    rfl
  | oversized _ _ _ _ _ hwriter _ _ _ =>
    cases hp
    rw [State.duty, hwriter]
    rfl
  | toldToClose _ hwriter _ =>
    cases hp
    rw [State.duty, hwriter]
    rfl
  | leftAlone hwriter _ _ =>
    cases hp
    rw [State.duty, hwriter]
    rfl
  | wrote _ _ _ hwriter _ =>
    cases hp
    exact hwriting hwriter
  | wroteLast _ _ _ hwriter =>
    cases hp
    exact hwriting hwriter
  | writeFailed _ _ _ hwriter =>
    cases hp
    exact hwriting hwriter
  | writerDid _ _ _ _ =>
    cases hp
    rfl
  | outputEnded hwriter =>
    cases hp
    rw [State.duty, hwriter]
    rfl
  | retired hwriter =>
    cases hp
    rw [State.duty, hwriter]
    rfl
  | closerDid k act todo stage hk _ =>
    cases hp
    rw [State.nextAct, State.duty, hk]
    rfl
  | readerAborted k hk =>
    cases hp
    exact hcloser rfl hk
  | closeSubmitted k todo hk _ _ =>
    cases hp
    exact hcloser (hf k _ hk (by simp)) hk
  | closeNotSubmitted k todo hk _ =>
    cases hp
    exact hcloser (hf k _ hk (by simp)) hk
  | closeReturned k todo hk _ =>
    cases hp
    exact hcloser (hf k _ hk (by simp)) hk
  | dropped _ hdropped =>
    cases hp
    rw [State.duty, hdropped]
    rfl
  | dropperDid act todo hdropped _ =>
    cases hp
    rw [State.nextAct, State.duty, hdropped]
    rfl
  | _ => cases hp

end RemoteCall.Client
