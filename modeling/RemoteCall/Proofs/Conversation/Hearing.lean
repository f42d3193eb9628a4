import RemoteCall.Proofs.Conversation.ServerSide

/-!
# What a connection hears and says

This is about every run of a connection in which writing does not fail, whatever arrives and however
it comes to its end.  As long as the connection goes on to read, what it takes from its inbox are
whole frames (`Heard`), and what it begins to write are frames of responses to the requests that it
found in them (`said_of_books`).
-/

namespace RemoteCall.Connection

variable {setup : Setup} {s s' : State} {label : Label} {shown : List Effect} {r : Record}

/-- What a step takes from the inbox. -/
inductive Heard (setup : Setup) (s : State) (label : Label) (s' : State) : Prop
  /-- The connection reads nothing more. -/
  | ended : s'.phase.isOpen = false → s.incoming setup label = none → Heard setup s label s'
  | nothing : s.phase.isOpen = true → s'.inbox = s.inbox → s.incoming setup label = none →
      Heard setup s label s'
  | frame (body : Bytes) (e : Envelope) : s.phase.isOpen = true →
      Frame.scan setup.frameLimit s.inbox = .frame body s'.inbox → Envelope.decode body = .ok e →
      s.incoming setup label = some ⟨e.header.method, e.header.seq, e.payload⟩ →
      Heard setup s label s'

/-- A step that leaves phase and inbox alone. -/
theorem heard_of_same (hphase : s'.phase = s.phase) (hinbox : s'.inbox = s.inbox)
    (hnone : s.incoming setup label = none) : Heard setup s label s' := by
  cases hopen : s.phase.isOpen with
  | true => exact .nothing hopen hinbox hnone
  | false => exact .ended (hphase ▸ hopen) hnone

theorem heard_takeOver {body rest : Bytes} {e : Envelope} (hopen : s.phase.isOpen = true)
    (hscan : Frame.scan setup.frameLimit s.inbox = .frame body rest)
    (hdecode : Envelope.decode body = .ok e)
    (h : State.takeOver setup { s with inbox := rest } ⟨e.header.method, e.header.seq, e.payload⟩
      = (s', shown)) : Heard setup s .read s' := by
  have hincoming : s.incoming setup .read
      = some ⟨e.header.method, e.header.seq, e.payload⟩ := by
    simp only [State.incoming, hscan, hdecode]
  have htake := (takeOver_eq setup { s with inbox := rest }
    ⟨e.header.method, e.header.seq, e.payload⟩).1
  rw [h] at htake
  refine .frame body e hopen ?_ hdecode hincoming
  rw [hscan]
  simp only at htake
  rw [htake]

/-- **What a connection takes in**, step by step. -/
theorem heard_of_step (hl : ∀ bytes, label ≠ .arrive bytes)
    (h : step setup s label = some (s', shown)) : Heard setup s label s' := by
  cases move_of_step h with
  | arrived bytes _ => exact absurd rfl (hl bytes)
  | accepted hphase => exact .nothing (by rw [hphase]; rfl) rfl rfl
  | noticed _ _ => exact .ended rfl rfl
  | took body rest e hphase hscan hdecode htake =>
    exact heard_takeOver (by rw [hphase]; rfl) hscan hdecode htake
  | badFrame body rest cause _ hscan hdecode =>
    exact .ended rfl (by simp only [State.incoming, hscan, hdecode])
  | tooLarge length rest _ hscan => exact .ended rfl (by simp only [State.incoming, hscan])
  | noMore _ hscan _ => exact .ended rfl (by simp only [State.incoming, hscan])
  | readFailed _ _ => exact .ended rfl rfl
  | acquired _ _ _ hphase _ _ => exact .nothing (by rw [hphase]; rfl) rfl rfl
  | resumed _ _ hphase _ => exact .nothing (by rw [hphase]; rfl) rfl rfl
  | notResumed _ _ _ _ _ => exact .ended rfl rfl
  | drained _ _ _ => exact .ended rfl rfl
  | outputEnded _ _ => exact .ended rfl rfl
  | announcedEnd _ _ => exact .ended rfl rfl
  | _ => exact heard_of_same rfl rfl rfl

/-- The requests that were read after a step. -/
theorem requests_of_books {request : Option Request} {task : Option Nat}
    {frame : Option (Nat × Bytes)} {bytes : Bytes} (h : Books setup r s)
    (h' : Books setup (r.extend request task frame bytes) s') :
    s'.requests = s.requests ++ request.toList := by
  rw [State.requests, State.requests, h'.kept.requests, h.kept.requests]
  rfl

/-- **What a connection says**: what goes out and is about to go out is left of a frame, or the frame
of a response to a request that was read. -/
theorem said_of_books {request : Option Request} {task : Option Nat}
    {frame : Option (Nat × Bytes)} {bytes : Bytes} (hlimit : setup.frameLimit ≤ Frame.longest)
    (h : Books setup r s) (h' : Books setup (r.extend request task frame bytes) s') : ∃ behind,
      bytes ++ s'.unwritten = s.unwritten ++ behind ∧
      Frame.IsStream (fun body => ∃ x ∈ s'.requests, ∃ e, Envelope.decode body = .ok e ∧
        e.header.seq = x.seq ∧ IsResponse setup x e) behind := by
  refine ⟨frame.toList.flatMap Prod.snd, ?_, ?_⟩
  · have hout := h'.output
    simp only [Record.extend, List.flatMap_append, ← h.output, List.append_assoc] at hout
    exact List.append_cancel_left hout
  · cases frame with
    | none => exact .nil
    | some begun =>
      obtain ⟨i, frame⟩ := begun
      have hmem : (i, frame) ∈ (r.extend request task (some (i, frame)) bytes).frames :=
        List.mem_append_right _ (List.mem_singleton_self _)
      obtain ⟨t, e, hi, hframe, hlength, hdecode, _, hseq, hresponse⟩ :=
        h'.kept.response_of_frame hlimit hmem
      have hread : t.request ∈ s'.requests := List.mem_map_of_mem (List.mem_of_getElem? hi)
      show Frame.IsStream _ (frame ++ [])
      rw [List.append_nil, hframe]
      exact .single (Nat.le_trans hlength hlimit) ⟨t.request, hread, e, hdecode, hseq, hresponse⟩

end RemoteCall.Connection
