import RemoteCall.Proofs.Server.Lifecycle
import RemoteCall.Server.Clock

/-!
# What a step means to a receive

A connection waits for a frame from the step with which it begins to read to the step that ends the
wait.  In between everything that arrives stays as it is, so it waits for the same frame all the time.
Outside of that it takes nothing from what arrived, and once it has stopped reading it does not begin
again.  `reception_of_step` says this of every step.
-/

namespace RemoteCall.Connection

/-- The bytes that arrive with a step. -/
def Label.arrival : Label → Bytes
  | .arrive bytes => bytes
  | _ => []

/-- Whether a step ends the wait for a frame: with what was read, because of the shutdown, or because
reading fails. -/
def Label.endsReceive : Label → Bool
  | .read => true
  | .notice => true
  | .failRead _ => true
  | _ => false

variable {setup : Setup} {c c' : State} {label : Label} {shown : List Effect}

/-- What a step means to the receiving of frames. -/
inductive Reception (c c' : State) (label : Label) : Prop
  /-- The connection waits for a frame, and goes on waiting. -/
  | waits : c.phase = .reading → c'.phase = .reading → label.endsReceive = false →
      c'.inbox = c.inbox ++ label.arrival →
      c'.inputEnded = (c.inputEnded || decide (label = .endInput)) → Reception c c' label
  /-- The wait ends. -/
  | ends : c.phase = .reading → c'.phase ≠ .reading → label.endsReceive = true →
      Reception c c' label
  /-- The connection does not wait for a frame, so it takes nothing from what arrived; if it has
  stopped reading, it does not begin again. -/
  | absent : c.phase ≠ .reading → label.endsReceive = false → c.inbox <+: c'.inbox →
      c'.tasks.map Task.request = c.tasks.map Task.request →
      (c'.phase = .reading → label.beginsReading = true) →
      (∀ failure, c.phase.stopped? = some failure → c'.phase.stopped? = some failure) →
      Reception c c' label

theorem reception_of_step (h : step setup c label = some (c', shown)) : Reception c c' label := by
  have hmodify : ∀ j stage, (c.setStage j stage).tasks.map Task.request
      = c.tasks.map Task.request := fun j stage => map_request_modify c.tasks j stage
  -- most steps leave the phase as it is
  have hstays : c'.phase = c.phase → label.endsReceive = false →
      c'.inbox = c.inbox ++ label.arrival →
      c'.inputEnded = (c.inputEnded || decide (label = .endInput)) →
      c'.tasks.map Task.request = c.tasks.map Task.request → Reception c c' label := by
    intro hphase hlabel hinbox hended hrequests
    by_cases hreading : c.phase = .reading
    · exact .waits hreading (hphase.trans hreading) hlabel hinbox hended
    · refine .absent hreading hlabel (hinbox ▸ List.prefix_append _ _) hrequests ?_ ?_
      · intro hafter
        exact absurd (hphase.symm.trans hafter) hreading
      · intro failure hstopped
        rwa [hphase]
  -- and of those most leave what arrived alone
  have hquiet : c'.phase = c.phase → label.endsReceive = false → label.arrival = [] →
      label ≠ .endInput → c'.inbox = c.inbox → c'.inputEnded = c.inputEnded →
      c'.tasks.map Task.request = c.tasks.map Task.request → Reception c c' label := by
    intro hphase hlabel harrival hinput hinbox hended hrequests
    refine hstays hphase hlabel ?_ ?_ hrequests
    · rw [hinbox, harrival, List.append_nil]
    · rw [hended, decide_eq_false hinput, Bool.or_false]
  have hends : ∀ {cause}, c.phase = .reading → c'.phase = .draining cause →
      label.endsReceive = true → Reception c c' label := by
    intro cause hphase hafter hlabel
    exact .ends hphase (by simp [hafter]) hlabel
  cases move_of_step h with
  | arrived bytes hended => exact hstays rfl rfl rfl (by simp) rfl
  | inputOver => exact hstays rfl rfl (List.append_nil _).symm (by simp) rfl
  | shuttingDown => exact hquiet rfl rfl rfl nofun rfl rfl rfl
  | noticed hphase _ => exact hends hphase rfl rfl
  | took body rest e hphase _ _ htake =>
    exact .ends hphase (by rw [eq_of_takeOver htake]; simp) rfl
  | badFrame _ _ _ hphase _ _ => exact hends hphase rfl rfl
  | tooLarge _ _ hphase _ => exact hends hphase rfl rfl
  | noMore hphase _ _ => exact hends hphase rfl rfl
  | readFailed _ hphase => exact hends hphase rfl rfl
  | accepted hphase =>
    exact .absent (by simp [hphase]) rfl List.prefix_rfl rfl (fun _ => rfl)
      (by simp [hphase, Phase.stopped?])
  | acquired i _ _ hphase _ _ =>
    exact .absent (by simp [hphase]) rfl List.prefix_rfl (hmodify i _) (fun _ => rfl)
      (by simp [hphase, Phase.stopped?])
  | resumed i _ hphase _ =>
    exact .absent (by simp [hphase]) rfl List.prefix_rfl (hmodify i _) (fun _ => rfl)
      (by simp [hphase, Phase.stopped?])
  | notResumed i _ _ hphase _ =>
    exact .absent (by simp [hphase]) rfl List.prefix_rfl (hmodify i _) (fun _ => rfl)
      (by simp [hphase, Phase.stopped?])
  | drained failure hphase _ =>
    exact .absent (by simp [hphase]) rfl List.prefix_rfl rfl nofun (by simp [hphase, Phase.stopped?])
  | outputEnded failure hphase =>
    exact .absent (by simp [hphase]) rfl List.prefix_rfl rfl nofun (by simp [hphase, Phase.stopped?])
  | announcedEnd failure hphase =>
    exact .absent (by simp [hphase]) rfl List.prefix_rfl rfl nofun (by simp [hphase, Phase.stopped?])
  | ran j _ _ _ _ _ _ => exact hquiet rfl rfl rfl nofun rfl rfl (hmodify j _)
  | panicked j _ _ _ _ => exact hquiet rfl rfl rfl nofun rfl rfl (hmodify j _)
  | began j _ _ _ _ _ _ _ => exact hquiet rfl rfl rfl nofun rfl rfl (hmodify j _)
  | gaveUp j _ _ _ _ _ _ _ => exact hquiet rfl rfl rfl nofun rfl rfl (hmodify j _)
  | wrote _ _ _ _ _ _ => exact hquiet rfl rfl rfl nofun rfl rfl rfl
  | wroteLast j _ _ _ => exact hquiet rfl rfl rfl nofun rfl rfl (hmodify j _)
  | writeFailed j _ _ _ => exact hquiet rfl rfl rfl nofun rfl rfl (hmodify j _)
  | reported j _ _ _ _ _ => exact hquiet rfl rfl rfl nofun rfl rfl (hmodify j _)

/-- A connection that waits after a step has begun with it, or has waited before. -/
theorem reading_of_step (h : step setup c label = some (c', shown)) (hafter : c'.phase = .reading)
    (hbegins : label.beginsReading = false) : c.phase = .reading := by
  cases reception_of_step h with
  | waits hphase _ _ _ _ => exact hphase
  | ends hphase _ _ => exact hphase
  | absent _ _ _ _ hagain _ =>
    rw [hagain hafter] at hbegins
    cases hbegins

/-- A connection that waits does not begin to wait. -/
theorem not_begins_of_reading (h : step setup c label = some (c', shown))
    (hphase : c.phase = .reading) : label.beginsReading = false := by
  cases label with
  | announce | acquire | resume => simp [step, State.acquire, State.resume, hphase] at h
  | _ => rfl

/-- A connection that waits cannot read as long as there is neither a whole frame nor the end of the
stream. -/
theorem canRead_eq_false_iff (h : c.phase = .reading) : c.canRead setup = false ↔
    Frame.scan setup.frameLimit c.inbox = .short ∧ c.inputEnded = false := by
  have hread : step setup c .read = c.read setup := by rw [step, h]
  rw [State.canRead, hread, State.read]
  cases hscan : Frame.scan setup.frameLimit c.inbox with
  | frame body rest => cases hdecode : Envelope.decode body <;> simp [hdecode]
  | tooLarge length rest => simp
  | short => cases hended : c.inputEnded <;> simp

end RemoteCall.Connection
