import RemoteCall.Proofs.Client.Change
import RemoteCall.Proofs.Conversation.Course

/-!
# The daily work of a client

A client does its daily work while nobody closes it, lets go of it or gives up a call.  If all goes
well (`Smooth`), every step of that work keeps the calls on course, and to the pipes it means one of
three things: nothing but bytes that went out, or a request was handed over, or a response was taken
(`Advance`, `goes_of_step`).  A client that cannot go on has nothing left to write, and all its calls
are over or still expect their responses (`calls_of_stuck`).
-/

namespace RemoteCall.Client

open Connection (Request)

/-- Whether a step belongs to the daily work.  The others come from the peer, from a failing
connection, or from users who close the client, let go of it or give up. -/
def Label.isRoutine : Label → Bool
  | .abandon _ => false
  | .arrive _ => false
  | .endInput => false
  | .failReceive _ => false
  | .failWrite _ => false
  | .close => false
  | .release => false
  | .drop => false
  | _ => true

/-- What a step of the client means to the pipes, with the bytes that it writes. -/
inductive Advance (setup : Setup) (s : State) : Bytes → State → Prop
  /-- Bytes may have gone out, and no more. -/
  | idle {bytes : Bytes} {s' : State} : (∀ r, s'.HasSent r ↔ s.HasSent r) →
      (∀ n < s.calls.length, s'.pending.Expects n ↔ s.pending.Expects n) → s'.inbox = s.inbox →
      s.outgoing = bytes ++ s'.outgoing → Advance setup s bytes s'
  /-- A request was handed over. -/
  | submitted {s' : State} (r : Request) : ¬ s.HasSent r → s.pending.Expects r.seq.toNat →
      (∀ x, s'.HasSent x ↔ s.HasSent x ∨ x = r) → s'.pending = s.pending → s'.inbox = s.inbox →
      s'.outgoing = s.outgoing ++ Frame.encode r.body → Advance setup s [] s'
  /-- A response was taken from the connection. -/
  | received {s' : State} (body : Bytes) (e : Envelope) :
      Frame.scan setup.frameLimit s.inbox = .frame body s'.inbox → Envelope.decode body = .ok e →
      (∀ r, s'.HasSent r ↔ s.HasSent r) →
      (∀ n, s'.pending.Expects n ↔ s.pending.Expects n ∧ n ≠ e.header.seq.toNat) →
      s'.outgoing = s.outgoing → Advance setup s [] s'

variable {setup : Setup} {s s' : State} {answer : Request → Outcome} {shown : List Effect}

/-- What the client meets is as it should be: its requests have frames within the limit, and what
arrives is the response to a call that expects one. -/
structure Smooth (setup : Setup) (answer : Request → Outcome) (s : State) : Prop where
  few : s.calls.length ≤ 2 ^ 64
  frames : ∀ {i : Nat} {c : Call}, s.calls[i]? = some c →
    Envelope.encode (.request c.method (UInt64.ofNat i)) c.payload = .ok (c.request i).body ∧
      (c.request i).body.length ≤ setup.frameLimit
  inbox : Frame.scan setup.frameLimit s.inbox = .short ∨
    ∃ body rest e r, Frame.scan setup.frameLimit s.inbox = .frame body rest ∧
      Envelope.decode body = .ok e ∧ s.HasSent r ∧ s.pending.Expects r.seq.toNat ∧
      e.header.seq = r.seq ∧ State.outcomeOf e = answer r

/-- The bytes that a step writes. -/
def output (shown : List Effect) : Bytes :=
  shown.flatMap fun
    | .bytes bytes => bytes
    | _ => []

theorem Lasting.congr (h : Lasting s) (hsent : ∀ r, s.HasSent r → s'.HasSent r)
    (hshut : s'.pending.shut = s.pending.shut) (hended : s'.reader.ended = s.reader.ended)
    (habort : s'.reader.abort = s.reader.abort) (hwriter : s'.writer = s.writer)
    (houtbox : s'.outbox = s.outbox) (hclosers : s'.closers = s.closers)
    (hdropped : s'.dropped = s.dropped) (hinput : s'.inputEnded = s.inputEnded) : Lasting s' where
  shut := hshut.trans h.shut
  ended := hended.trans h.ended
  abort := habort.trans h.abort
  writer := hwriter ▸ h.writer
  isOpen := houtbox ▸ h.isOpen
  items item hitem := by
    obtain ⟨r, hr, heq⟩ := h.items item (houtbox ▸ hitem)
    exact ⟨r, hsent r hr, heq⟩
  closers := hclosers.trans h.closers
  dropped := hdropped.trans h.dropped
  inputEnded := hinput.trans h.inputEnded

/-- What every step of the daily work keeps, and what it means to the pipes. -/
def Goes (setup : Setup) (answer : Request → Outcome) (s s' : State) (shown : List Effect) : Prop :=
  OnCourse answer s' ∧ Lasting s' ∧ Advance setup s (output shown) s' ∧ .endOutput ∉ shown

theorem goes_began (h : OnCourse answer s) (hlasting : Lasting s) (method : String)
    (payload : Bytes) (keepsClient : Bool) : Goes setup answer s { s with
      pending := { s.pending with
        nextSeq := s.pending.nextSeq + 1
        entries := s.pending.entries ++ [⟨s.pending.nextSeq, s.calls.length⟩] }
      calls := s.calls ++
        [⟨method, payload, keepsClient, some s.pending.nextSeq, .registered, none⟩] } [] := by
  have hsent := fun r => @hasSent_of_append s { s with
    pending := { s.pending with
      nextSeq := s.pending.nextSeq + 1
      entries := s.pending.entries ++ [⟨s.pending.nextSeq, s.calls.length⟩] }
    calls := s.calls ++
      [⟨method, payload, keepsClient, some s.pending.nextSeq, .registered, none⟩] } _ rfl rfl r
  rw [h.next] at hsent ⊢
  refine ⟨?_, ?_, ?_, List.not_mem_nil⟩
  · exact h.call rfl rfl rfl rfl (by rw [h.next]) rfl rfl
  · exact hlasting.congr (fun r => (hsent r).mpr) rfl rfl rfl rfl rfl rfl rfl rfl
  · refine .idle hsent ?_ rfl rfl
    intro n hn
    show ⟨n, n⟩ ∈ s.pending.entries ++ [_] ↔ ⟨n, n⟩ ∈ s.pending.entries
    rw [List.mem_append, List.mem_singleton]
    refine ⟨?_, Or.inl⟩
    rintro (hmem | heq)
    · exact hmem
    · cases heq
      exact absurd hn (Nat.lt_irrefl _)

/-- A call comes further that is not handed over by this. -/
theorem goes_stage {i : Nat} {c : Call} {stage : Stage} (h : OnCourse answer s)
    (hlasting : Lasting s) (hi : s.calls[i]? = some c)
    (hposition : Position answer s.pending s.reader.todo i { c with stage := stage })
    (hsame : stage.isHandedOver = c.stage.isHandedOver) {events : List Event} :
    Goes setup answer s (s.setStage i stage) (events.map .event) := by
  have hsent := fun r => @hasSent_of_same s (s.setStage i stage) i c
    (fun c => { c with stage := stage }) hi rfl rfl hsame r
  have hout : output (events.map .event) = [] := by
    rw [output, List.flatMap_eq_nil_iff]
    intro effect heffect
    obtain ⟨event, _, rfl⟩ := List.mem_map.mp heffect
    rfl
  refine ⟨h.move hi rfl rfl hposition rfl rfl rfl, ?_, ?_, ?_⟩
  · exact hlasting.congr (fun r => (hsent r).mpr) rfl rfl rfl rfl rfl rfl rfl rfl
  · rw [hout]
    exact .idle hsent (fun _ _ => Iff.rfl) rfl rfl
  · simp

theorem goes_framed {i : Nat} {c : Call} {seq : Nat} {frame : Bytes} (h : OnCourse answer s)
    (hlasting : Lasting s) (hs : Smooth setup answer s) (hi : s.calls[i]? = some c)
    (hstage : c.stage = .registered) (hseq : c.seq = some seq)
    (hencode : Envelope.encode (.request c.method (UInt64.ofNat seq)) c.payload = .ok frame)
    (event : Event) : Goes setup answer s (s.setStage i (.queueing frame)) [.event event] := by
  cases hseq.symm.trans (h.seq hi)
  cases hencode.symm.trans (hs.frames hi).1
  refine @goes_stage setup s answer i c _ h hlasting hi ?_ (by rw [hstage]; rfl) [event]
  obtain ⟨hslot, hexpects⟩ := (h.position hi).of_registered hstage
  exact .queueing rfl hslot hexpects

theorem goes_submitted {i : Nat} {c : Call} {seq : Nat} {frame : Bytes} (h : OnCourse answer s)
    (hlasting : Lasting s) (hs : Smooth setup answer s) (hi : s.calls[i]? = some c)
    (hstage : c.stage = .queueing frame) (hseq : c.seq = some seq) :
    Goes setup answer s ({ s with
      outbox := { s.outbox with items := s.outbox.items ++ [Item.request seq frame] }
      }.setStage i .waiting) [] := by
  cases hseq.symm.trans (h.seq hi)
  obtain ⟨rfl, hslot, hexpects⟩ := (h.position hi).of_queueing hstage
  have hnumber := toNat_seq hs.few hi
  have hsent := fun r => @hasSent_of_modify s
    ({ s with outbox := { s.outbox with
        items := s.outbox.items ++ [Item.request i (c.request i).body] } }.setStage i .waiting)
    i c (fun c => { c with stage := .waiting }) hi rfl rfl (fun _ => rfl) r
  refine ⟨?_, ?_, ?_, List.not_mem_nil⟩
  · exact h.move hi rfl rfl (.waiting rfl hslot hexpects) rfl rfl rfl
  · refine ⟨hlasting.shut, hlasting.ended, hlasting.abort, hlasting.writer, hlasting.isOpen,
      ?_, hlasting.closers, hlasting.dropped, hlasting.inputEnded⟩
    intro item hitem
    rcases List.mem_append.mp hitem with hitem | hitem
    · obtain ⟨r, hr, heq⟩ := hlasting.items item hitem
      exact ⟨r, (hsent r).mpr (Or.inl hr), heq⟩
    · refine ⟨c.request i, (hsent _).mpr (Or.inr ⟨rfl, rfl⟩), ?_⟩
      rw [hnumber]
      exact List.mem_singleton.mp hitem
  · refine .submitted (c.request i) (not_hasSent hs.few hi (by rw [hstage]; rfl))
      (hnumber.symm ▸ hexpects) ?_ rfl rfl ?_
    · intro r
      rw [hsent r]
      exact or_congr_right (and_iff_right rfl)
    · show s.unwritten ++ (s.outbox.items ++ [_]).flatMap Item.bytes = _
      rw [List.flatMap_append, List.flatMap_singleton, ← List.append_assoc]
      rfl

theorem goes_collected {i : Nat} {c : Call} {outcome : Outcome} (h : OnCourse answer s)
    (hlasting : Lasting s) (hi : s.calls[i]? = some c) (hstage : c.stage = .waiting)
    (hslot : c.slot = some outcome) :
    Goes setup answer s (s.setStage i (.finished outcome)) [] := by
  refine @goes_stage setup s answer i c _ h hlasting hi ?_ (by rw [hstage]; rfl) []
  obtain ⟨rfl, hnot⟩ := (h.position hi).of_slot hstage hslot
  exact .finished rfl hnot

/-- What arrives is the response to a call on the table. -/
theorem find_of_scan {body rest : Bytes} (h : OnCourse answer s) (hs : Smooth setup answer s)
    (hscan : Frame.scan setup.frameLimit s.inbox = .frame body rest) :
    ∃ (e : Envelope) (i : Nat) (c : Call), Envelope.decode body = .ok e ∧
      s.calls[i]? = some c ∧ c.stage.isHandedOver = true ∧ s.pending.Expects i ∧
      e.header.seq.toNat = i ∧ s.pending.find e.header.seq.toNat = some ⟨i, i⟩ ∧
      State.outcomeOf e = answer (c.request i) := by
  rcases hs.inbox with hshort | ⟨body', rest', e, r, hscan', hdecode, hr, hexpects, hseq, hout⟩
  · cases hshort.symm.trans hscan
  · cases hscan'.symm.trans hscan
    obtain ⟨i, c, hi, hstage, rfl⟩ := hr
    rw [toNat_seq hs.few hi] at hexpects
    have hnumber : e.header.seq.toNat = i := by rw [hseq, toNat_seq hs.few hi]
    refine ⟨e, i, c, hdecode, hi, hstage, hexpects, hnumber, ?_, hout⟩
    rw [hnumber]
    exact find_of_expects h hexpects

theorem goes_answered {body rest : Bytes} {e : Envelope} {entry : Entry} (h : OnCourse answer s)
    (hlasting : Lasting s) (hs : Smooth setup answer s) (hread : s.isReading = true)
    (hscan : Frame.scan setup.frameLimit s.inbox = .frame body rest)
    (hdecode : Envelope.decode body = .ok e)
    (hfind : s.pending.find e.header.seq.toNat = some entry) :
    Goes setup answer s { s with
      inbox := rest
      pending := s.pending.remove entry.seq
      reader := { s.reader with todo := [.settle entry.call (State.outcomeOf e)] } } [] := by
  obtain ⟨e', i, c, hdecode', hi, hstage, hexpects, hnumber, hfound, hout⟩ :=
    find_of_scan h hs hscan
  cases hdecode'.symm.trans hdecode
  cases hfound.symm.trans hfind
  rw [hout]
  refine ⟨?_, ?_, ?_, List.not_mem_nil⟩
  · exact h.receive hi hstage hexpects (reader_todo_of_isReading hread) rfl rfl rfl
  · exact hlasting.congr (fun r => (hasSent_of_eq rfl r).mpr) rfl rfl rfl rfl rfl rfl rfl rfl
  · refine .received body e hscan hdecode (hasSent_of_eq rfl) ?_ rfl
    intro n
    rw [hnumber]
    exact expects_remove s.pending i n

theorem goes_readerAct {act : Act} {todo : List Act} (h : OnCourse answer s) (hlasting : Lasting s)
    (hact : s.reader.todo = act :: todo) (hstep : { s with
      reader := { s.reader with todo := todo } }.perform act = (s', shown)) :
    Goes setup answer s s' shown := by
  rcases h.delivers with hnil | ⟨i, c, hi, hnot, hdelivers⟩
  · rw [hnil] at hact
    cases hact
  · cases hact.symm.trans hdelivers
    cases hstep
    have hsent := fun r => @hasSent_of_same s ({ s with
      reader := { s.reader with todo := [] } }.settle i (answer (c.request i))) i c _ hi rfl
      (by split <;> rfl) (by split <;> rfl) r
    refine ⟨?_, ?_, ?_, List.not_mem_nil⟩
    · exact h.settle hact rfl rfl rfl
    · exact hlasting.congr (fun r => (hsent r).mpr) rfl rfl rfl rfl rfl rfl rfl rfl
    · exact .idle hsent (fun _ _ => Iff.rfl) rfl rfl

/-- What is in the outbox are requests, and their frames are within the limit. -/
theorem item_of_cons {item : Item} {items : List Item} (hlasting : Lasting s)
    (hs : Smooth setup answer s) (hitems : s.outbox.items = item :: items) :
    ∃ seq body, item = .request seq body ∧
      Frame.encode? setup.frameLimit body = .ok (Frame.encode body) := by
  obtain ⟨r, ⟨i, c, hi, _, rfl⟩, heq⟩ := hlasting.items item (hitems ▸ List.mem_cons_self)
  exact ⟨_, _, heq, by rw [Frame.encode?, if_pos (hs.frames hi).2]⟩

theorem goes_dequeued {seq : Nat} {body frame : Bytes} {items : List Item}
    (h : OnCourse answer s) (hlasting : Lasting s) (hs : Smooth setup answer s)
    (hwriter : s.writer = ⟨[], .idle⟩) (hitems : s.outbox.items = .request seq body :: items)
    (hframe : Frame.encode? setup.frameLimit body = .ok frame) :
    Goes setup answer s { s with
      outbox := { s.outbox with items := items }
      writer := ⟨[], .writing frame⟩ } [] := by
  obtain ⟨_, _, heq, hencode⟩ := item_of_cons hlasting hs hitems
  cases heq
  cases hencode.symm.trans hframe
  refine ⟨⟨h.next, h.entries, h.seq, h.position, h.delivers⟩, ?_, ?_, List.not_mem_nil⟩
  · refine ⟨hlasting.shut, hlasting.ended, hlasting.abort,
      Or.inr ⟨_, Frame.encode_ne_nil _, rfl⟩, hlasting.isOpen, ?_, hlasting.closers,
      hlasting.dropped, hlasting.inputEnded⟩
    intro item hitem
    exact hlasting.items item (hitems ▸ List.mem_cons_of_mem _ hitem)
  · refine .idle (hasSent_of_eq rfl) (fun _ _ => Iff.rfl) rfl ?_
    rw [State.outgoing, State.unwritten, hwriter, hitems]
    rfl

theorem goes_wrote {left rest bytes : Bytes} {w : Writer} (h : OnCourse answer s)
    (hlasting : Lasting s) (hphase : s.writer.phase = .writing left) (hleft : left = bytes ++ rest)
    (hwork : w.IsAtWork) (hrest : State.unwritten { s with writer := w } = rest) :
    Goes setup answer s { s with writer := w } [.bytes bytes] := by
  refine ⟨⟨h.next, h.entries, h.seq, h.position, h.delivers⟩, ?_, ?_, by simp⟩
  · exact ⟨hlasting.shut, hlasting.ended, hlasting.abort, hwork, hlasting.isOpen, hlasting.items,
      hlasting.closers, hlasting.dropped, hlasting.inputEnded⟩
  · refine .idle (hasSent_of_eq rfl) (fun _ _ => Iff.rfl) rfl ?_
    rw [State.outgoing, State.outgoing, hrest, State.unwritten, hphase, output,
      List.flatMap_singleton, ← List.append_assoc]
    exact congrArg (· ++ _) hleft

/-- While nothing fails the writer has nothing to do beside writing. -/
theorem Lasting.writer_todo (hlasting : Lasting s) : s.writer.todo = [] := by
  rcases hlasting.writer with hidle | ⟨_, _, hwriting⟩
  · rw [hidle]
  · rw [hwriting]

/-- While nothing fails the writer does not come to its end. -/
theorem Lasting.not_closing (hlasting : Lasting s) {w : Writer} (hwriter : s.writer = w) :
    w.phase ≠ .closing ∧ w.phase ≠ .closed := by
  rcases hlasting.writer with hidle | ⟨_, _, hwriting⟩
  · cases hwriter.symm.trans hidle
    exact ⟨by simp, by simp⟩
  · cases hwriter.symm.trans hwriting
    exact ⟨by simp, by simp⟩

/-- Nobody closes the client. -/
theorem Lasting.not_closer (hlasting : Lasting s) {k : Nat} {c : Closer} :
    s.closers[k]? ≠ some c := by
  rw [hlasting.closers]
  simp

/-- **The daily work keeps all calls on course**, and the pipes see it as `Advance` says. -/
theorem goes_of_step {label : Label} (h : OnCourse answer s) (hlasting : Lasting s)
    (hs : Smooth setup answer s) (hl : label.isRoutine = true)
    (hstep : step setup s label = some (s', shown)) : Goes setup answer s s' shown := by
  cases move_of_step hstep with
  | began method payload keepsClient _ => exact goes_began h hlasting method payload keepsClient
  | refused _ _ _ hshut => cases hlasting.shut.symm.trans hshut
  | framed i c seq frame hi hstage hseq hencode =>
    exact goes_framed h hlasting hs hi hstage hseq hencode _
  | notFramed i c seq cause hi _ hseq hencode =>
    cases hseq.symm.trans (h.seq hi)
    cases hencode.symm.trans (hs.frames hi).1
  | submitted i c seq frame hi hstage hseq _ _ => exact goes_submitted h hlasting hs hi hstage hseq
  | notSubmitted _ _ _ _ _ _ _ hclosed => cases hlasting.isOpen.symm.trans hclosed
  | collected i c outcome hi hstage hslot => exact goes_collected h hlasting hi hstage hslot
  | stray body rest e _ hscan hdecode hnone =>
    obtain ⟨e', _, _, hdecode', _, _, _, _, hfound, _⟩ := find_of_scan h hs hscan
    cases hdecode'.symm.trans hdecode
    cases hfound.symm.trans hnone
  | answered body rest e entry hread hscan hdecode hfind =>
    exact goes_answered h hlasting hs hread hscan hdecode hfind
  | badFrame body rest cause _ hscan hdecode =>
    obtain ⟨_, _, _, hdecode', _⟩ := find_of_scan h hs hscan
    cases hdecode'.symm.trans hdecode
  | tooLarge length rest _ hscan =>
    rcases hs.inbox with hshort | ⟨_, _, _, _, hframe, _⟩
    · cases hshort.symm.trans hscan
    · cases hframe.symm.trans hscan
  | noMore _ _ hended => cases hlasting.inputEnded.symm.trans hended
  | readerDid act todo hact hperform => exact goes_readerAct h hlasting hact hperform
  | readerStopped _ habort => cases hlasting.abort.symm.trans habort
  | dequeued seq body frame items hwriter hitems hframe =>
    exact goes_dequeued h hlasting hs hwriter hitems hframe
  | oversizedStray seq body items cause _ hitems hframe _ =>
    obtain ⟨_, _, heq, hencode⟩ := item_of_cons hlasting hs hitems
    cases heq
    cases hencode.symm.trans hframe
  | oversized seq body items cause entry _ hitems hframe _ =>
    obtain ⟨_, _, heq, hencode⟩ := item_of_cons hlasting hs hitems
    cases heq
    cases hencode.symm.trans hframe
  | toldToClose items _ hitems =>
    obtain ⟨_, _, heq, _⟩ := item_of_cons hlasting hs hitems
    cases heq
  | leftAlone _ _ hdropped => cases hlasting.dropped.symm.trans hdropped
  | wrote n todo left hwriter hne =>
    have htodo := hlasting.writer_todo
    rw [hwriter] at htodo
    subst htodo
    exact goes_wrote h hlasting (by rw [hwriter]) (List.take_append_drop n left).symm
      (Or.inr ⟨_, hne, rfl⟩) rfl
  | wroteLast n todo left hwriter =>
    have htodo := hlasting.writer_todo
    rw [hwriter] at htodo
    subst htodo
    exact goes_wrote h hlasting (by rw [hwriter]) (List.append_nil _).symm (Or.inl rfl) rfl
  | writerDid act todo hact _ => cases hlasting.writer_todo.symm.trans hact
  | outputEnded hwriter => exact absurd rfl (hlasting.not_closing hwriter).1
  | retired hwriter => exact absurd rfl (hlasting.not_closing hwriter).2
  | closerDid k act todo stage hk _ => exact absurd hk hlasting.not_closer
  | readerAborted k hk => exact absurd hk hlasting.not_closer
  | closeSubmitted k todo hk _ _ => exact absurd hk hlasting.not_closer
  | closeNotSubmitted k todo hk _ => exact absurd hk hlasting.not_closer
  | closeReturned k todo hk _ => exact absurd hk hlasting.not_closer
  | dropperDid act todo hdropped _ => cases hlasting.dropped.symm.trans hdropped
  | _ => cases hl

/-! ## When nothing can be done -/

/-- Whether a step begins a new call. -/
def Label.begins : Label → Bool
  | .call _ _ _ => true
  | _ => false

/-- No step of the daily work can be taken. -/
def State.IsStuck (setup : Setup) (s : State) : Prop :=
  ∀ label : Label, label.isRoutine = true → label.begins = false → step setup s label = none

theorem State.IsStuck.todo (h : s.IsStuck setup) : s.reader.todo = [] := by
  cases htodo : s.reader.todo with
  | nil => rfl
  | cons act todo =>
    have hnone := h .readerAct rfl rfl
    rw [step, htodo] at hnone
    cases hnone

theorem State.IsStuck.writer (h : s.IsStuck setup) (hlasting : Lasting s) :
    s.writer = ⟨[], .idle⟩ := by
  rcases hlasting.writer with hidle | ⟨left, hne, hwriting⟩
  · exact hidle
  · have hnone := h (.write 1) rfl rfl
    have hshort : ¬ (1 = 0 ∨ Bytes.isShorter 1 left = true) := by
      cases left with
      | nil => exact absurd rfl hne
      | cons byte left => simp [Bytes.isShorter]
    simp only [step, State.write, hwriting] at hnone
    rw [if_neg hshort] at hnone
    split at hnone
    · cases hnone
    · cases hnone

theorem State.IsStuck.items (h : s.IsStuck setup) (hlasting : Lasting s)
    (hs : Smooth setup answer s) : s.outbox.items = [] := by
  cases hitems : s.outbox.items with
  | nil => rfl
  | cons item items =>
    obtain ⟨r, ⟨i, c, hi, _, rfl⟩, rfl⟩ := hlasting.items item (hitems ▸ List.mem_cons_self)
    have hnone := h .dequeue rfl rfl
    simp only [step, State.dequeue, h.writer hlasting, hitems, Frame.encode?,
      if_pos (hs.frames hi).2] at hnone
    cases hnone

/-- **When a client is stuck**, it has nothing to write and nothing to read, and every call has its
answer or expects it. -/
theorem calls_of_stuck (h : OnCourse answer s) (hlasting : Lasting s) (hs : Smooth setup answer s)
    (hstuck : s.IsStuck setup) :
    s.outgoing = [] ∧ Frame.scan setup.frameLimit s.inbox = .short ∧
      ∀ {i : Nat} {c : Call}, s.calls[i]? = some c →
        c.stage = .finished (answer (c.request i)) ∨
          c.stage = .waiting ∧ s.pending.Expects i := by
  have htodo := hstuck.todo
  have hwriter := hstuck.writer hlasting
  have hitems := hstuck.items hlasting hs
  refine ⟨?_, ?_, ?_⟩
  · rw [State.outgoing, State.unwritten, hwriter, hitems]
    rfl
  · rcases hs.inbox with hshort | ⟨body, rest, e, r, hscan, hdecode, _⟩
    · exact hshort
    · have hnone := hstuck .receive rfl rfl
      have hread : s.isReading = true := by
        rw [State.isReading, hlasting.ended, htodo]
        rfl
      simp only [step, hread, if_true, State.receive, hscan, hdecode] at hnone
      cases hnone
  · intro i c hi
    have hposition := h.position hi
    cases hposition with
    | registered hstage _ _ =>
      have hnone := hstuck (.frame i) rfl rfl
      simp only [step, State.frame, hi, hstage, h.seq hi, (hs.frames hi).1] at hnone
      cases hnone
    | queueing hstage _ _ =>
      have hnone := hstuck (.submit i) rfl rfl
      simp only [step, State.submit, hi, hstage, h.seq hi, hlasting.isOpen, if_true, State.enqueue,
        hitems] at hnone
      cases hnone
    | waiting hstage _ hexpects => exact Or.inr ⟨hstage, hexpects⟩
    | owed _ _ _ hact => cases htodo.symm.trans hact
    | settled hstage hslot _ =>
      have hnone := hstuck (.collect i) rfl rfl
      simp only [step, State.collect, hi, hstage, hslot] at hnone
      cases hnone
    | finished hstage _ => exact Or.inl hstage

end RemoteCall.Client
