import RemoteCall.Proofs.Conversation.Steady
import RemoteCall.Proofs.Client.Correlation

/-!
# What a client says and hears

This is about every run of a client, also one that is closed or cut off in the middle.  What it
writes are frames of the requests of its calls and of nothing else (`Asking`), and as long as it
reads, what it takes from its inbox are whole frames, one after the other.  `Traffic` says what a
step adds to either.

Most steps do neither.  For these it is enough to know that they touch nothing of what the peer or
the writer would notice (`State.front`).
-/

namespace RemoteCall.Client

open Connection (Request)

variable {setup : Setup} {s s' : State} {act : Option Act} {taken : Option Envelope}
  {label : Label} {shown : List Effect}

/-! ## Requests of calls -/

/-- The request of a call, if the call has a number. -/
def Call.asked? (c : Call) : Option Request :=
  c.seq.map fun n => ⟨c.method, UInt64.ofNat n, c.payload⟩

/-- The request is that of some call. -/
def State.Asks (s : State) (r : Request) : Prop :=
  ∃ (i : Nat) (c : Call), s.calls[i]? = some c ∧ c.asked? = some r

/-- The bytes are the frame body of the request of some call. -/
def State.AsksBy (s : State) (body : Bytes) : Prop :=
  ∃ r, s.Asks r ∧ Envelope.encode (.request r.method r.seq) r.payload = .ok body

/-- A call keeps its request. -/
theorem Change.asked_after (h : Change s act taken s') {i : Nat} {c : Call}
    (hi : s.calls[i]? = some c) : ∃ c', s'.calls[i]? = some c' ∧ c'.asked? = c.asked? := by
  obtain ⟨c', hi', hseq⟩ := h.shift.call_after hi
  obtain ⟨c'', hi'', hrequest⟩ := (Conversation.keepsCalls_of_change h).request hi
  cases hi'.symm.trans hi''
  have hmethod : c'.method = c.method := congrArg Request.method hrequest
  have hpayload : c'.payload = c.payload := congrArg Request.payload hrequest
  refine ⟨c', hi', ?_⟩
  rw [Call.asked?, Call.asked?, hseq, hmethod, hpayload]

theorem Change.asks (h : Change s act taken s') {r : Request} (hr : s.Asks r) : s'.Asks r := by
  obtain ⟨i, c, hi, hasked⟩ := hr
  obtain ⟨c', hi', hasked'⟩ := h.asked_after hi
  exact ⟨i, c', hi', hasked'.trans hasked⟩

theorem Change.asksBy (h : Change s act taken s') {body : Bytes} (hbody : s.AsksBy body) :
    s'.AsksBy body := by
  obtain ⟨r, hr, hencode⟩ := hbody
  exact ⟨r, h.asks hr, hencode⟩

/-- Numbers tell calls apart, as long as there are not too many of them. -/
theorem eq_of_asked {i j : Nat} {c d : Call} {r x : Request} (hs : Numbered s)
    (hfew : s.pending.nextSeq ≤ 2 ^ 64) (hi : s.calls[i]? = some c) (hj : s.calls[j]? = some d)
    (hc : c.asked? = some r) (hd : d.asked? = some x) (hseq : r.seq = x.seq) : i = j := by
  obtain ⟨n, hn, rfl⟩ := Option.map_eq_some_iff.mp hc
  obtain ⟨k, hk, rfl⟩ := Option.map_eq_some_iff.mp hd
  have hlt := hs.lt hi hn
  have hlt' := hs.lt hj hk
  have hnat := congrArg UInt64.toNat hseq
  simp only [UInt64.toNat_ofNat'] at hnat
  rw [Nat.mod_eq_of_lt (by omega), Nat.mod_eq_of_lt (by omega)] at hnat
  exact hs.inj hi hj hn (hnat ▸ hk)

/-- No more numbers are given out than there are calls. -/
theorem Shift.nextSeq_le_length (h : Shift s s') (hs : s.pending.nextSeq ≤ s.calls.length) :
    s'.pending.nextSeq ≤ s'.calls.length := by
  have hlength := h.length_le
  cases h with
  | numbered c hc _ hnext _ =>
    rw [hc, List.length_append, List.length_singleton]
    omega
  | unnumbered c hc _ _ hp =>
    rw [hp]
    omega
  | kept i f hc _ hnext _ => omega

/-! ## Stages -/

/-- A stage holds no frame but one of a request, and no failure but one of this side. -/
def State.Approves (s : State) : Stage → Prop
  | .queueing frame => s.AsksBy frame
  | .failed cause => isLocal (.error cause) = true
  | _ => True

/-- Whatever calls hold and whatever is in the outbox was asked for. -/
structure Asking (s : State) : Prop where
  stages : ∀ {i : Nat} {c : Call}, s.calls[i]? = some c → s.Approves c.stage
  items : ∀ {n : Nat} {body : Bytes}, .request n body ∈ s.outbox.items → s.AsksBy body

/-- Every call is at the stage at which it was, or at another that is approved. -/
def State.Follows (s s' : State) : Prop :=
  ∀ (i : Nat) (c' : Call), s'.calls[i]? = some c' →
    (∃ c, s.calls[i]? = some c ∧ c'.stage = c.stage) ∨ s'.Approves c'.stage

theorem asking_start : Asking start where
  stages h := by cases h
  items h := by cases h

theorem Change.approves (h : Change s act taken s') {stage : Stage} (hs : s.Approves stage) :
    s'.Approves stage := by
  cases stage with
  | queueing frame => exact h.asksBy hs
  | _ => exact hs

theorem Asking.of_follows (h : Asking s) (hc : Change s act taken s') (hfollows : s.Follows s')
    (hitems : ∀ n body, .request n body ∈ s'.outbox.items →
      .request n body ∈ s.outbox.items ∨ s.AsksBy body) : Asking s' := by
  constructor
  · intro i c' hi
    rcases hfollows i c' hi with ⟨c, hc₀, hstage⟩ | happroves
    · rw [hstage]
      exact hc.approves (h.stages hc₀)
    · exact happroves
  · intro n body hbody
    rcases hitems n body hbody with hold | hnew
    · exact hc.asksBy (h.items hold)
    · exact hc.asksBy hnew

theorem follows_of_eq (h : s'.calls = s.calls) : s.Follows s' := by
  intro i c' hi
  exact Or.inl ⟨c', h ▸ hi, rfl⟩

theorem follows_of_append {d : Call} (h : s'.calls = s.calls ++ [d])
    (hd : s'.Approves d.stage) : s.Follows s' := by
  intro i c' hi
  rw [h] at hi
  rcases getElem?_append_singleton hi with hi | ⟨_, rfl⟩
  · exact Or.inl ⟨c', hi, rfl⟩
  · exact Or.inr hd

theorem follows_of_stage {k : Nat} {stage : Stage}
    (h : s'.calls = s.calls.modify k fun c => { c with stage := stage })
    (hstage : s'.Approves stage) : s.Follows s' := by
  intro i c' hi
  rw [h] at hi
  obtain ⟨c, hc, rfl⟩ := getElem?_modify_eq_some hi
  split
  · exact Or.inr hstage
  · exact Or.inl ⟨c, hc, rfl⟩

theorem follows_settle (s : State) (k : Nat) (outcome : Outcome) :
    s.Follows (s.settle k outcome) := by
  intro i c' hi
  obtain ⟨c, hc, rfl⟩ := getElem?_settle hi
  refine Or.inl ⟨c, hc, ?_⟩
  split <;> rfl

/-! ## What goes out and what is taken in -/

/-- What a step takes from the inbox. -/
inductive Heard (setup : Setup) (s : State) (label : Label) (s' : State) : Prop
  /-- The reader reads nothing more. -/
  | ended : s'.reader.ended = true → s.delivery setup label = none → Heard setup s label s'
  | nothing : s'.reader.ended = s.reader.ended → s'.inbox = s.inbox →
      s.delivery setup label = none → Heard setup s label s'
  | frame (body : Bytes) (e : Envelope) : s.reader.ended = false → s'.reader.ended = false →
      Frame.scan setup.frameLimit s.inbox = .frame body s'.inbox → Envelope.decode body = .ok e →
      s.delivery setup label = some e → Heard setup s label s'

/-- What a step hands over, writes and takes from the inbox. -/
structure Traffic (setup : Setup) (s : State) (label : Label) (s' : State) (shown : List Effect) :
    Prop where
  follows : s.Follows s'
  /-- A call that puts something into the outbox puts in what it holds. -/
  items : ∀ n body, .request n body ∈ s'.outbox.items → .request n body ∈ s.outbox.items ∨
    ∃ (i : Nat) (c : Call), s.calls[i]? = some c ∧ c.stage = .queueing body
  /-- What goes out or is about to go out is left of a frame, or a frame from the outbox. -/
  written : (∀ cause, label ≠ .failWrite cause) → ∃ bodies,
    s.unwritten ++ Frame.stream bodies = output shown ++ s'.unwritten ∧
    ∀ body ∈ bodies, body.length ≤ setup.frameLimit ∧ ∃ n, .request n body ∈ s.outbox.items
  heard : (∀ bytes, label ≠ .arrive bytes) → Heard setup s label s'

/-- What the peer or the writer would notice of a client. -/
def State.front (s : State) : Outbox × WriterPhase × Bytes × Bool :=
  (s.outbox, s.writer.phase, s.inbox, s.reader.ended)

theorem unwritten_of_phase (h : s'.writer.phase = s.writer.phase) :
    s'.unwritten = s.unwritten := by
  rw [State.unwritten, State.unwritten, h]

/-- Steps that write nothing and put nothing into the outbox. -/
theorem traffic_of_still (hfollows : s.Follows s') (hitems : s'.outbox.items ⊆ s.outbox.items)
    (hunwritten : s'.unwritten = s.unwritten) (hout : output shown = [])
    (hheard : (∀ bytes, label ≠ .arrive bytes) → Heard setup s label s') :
    Traffic setup s label s' shown := by
  refine ⟨hfollows, fun n body hbody => Or.inl (hitems hbody), ?_, hheard⟩
  intro _
  refine ⟨[], ?_, fun _ hbody => by cases hbody⟩
  rw [hout, hunwritten, Frame.stream_nil, List.append_nil, List.nil_append]

/-- Steps that leave the outbox and the writer alone. -/
theorem traffic_of_silent (hfollows : s.Follows s') (houtbox : s'.outbox = s.outbox)
    (hphase : s'.writer.phase = s.writer.phase) (hout : output shown = [])
    (hheard : (∀ bytes, label ≠ .arrive bytes) → Heard setup s label s') :
    Traffic setup s label s' shown :=
  traffic_of_still hfollows (houtbox ▸ List.Subset.refl _) (unwritten_of_phase hphase) hout hheard

/-- Steps that nobody else notices. -/
theorem traffic_of_aside (hfront : s'.front = s.front) (hfollows : s.Follows s')
    (hout : output shown = []) (hdelivery : s.delivery setup label = none) :
    Traffic setup s label s' shown := by
  simp only [State.front, Prod.mk.injEq] at hfront
  obtain ⟨houtbox, hphase, hinbox, hended⟩ := hfront
  exact traffic_of_silent hfollows houtbox hphase hout fun _ => .nothing hended hinbox hdelivery

/-- A caller that goes takes only its entry along. -/
theorem traffic_forget {c : Call} {i : Nat} {stage : Stage}
    (hstage : ((s.forget c).setStage i stage).Approves stage)
    (hdelivery : s.delivery setup label = none) :
    Traffic setup s label ((s.forget c).setStage i stage) [] := by
  have hcalls : ((s.forget c).setStage i stage).calls
      = s.calls.modify i fun c => { c with stage := stage } := by
    show (s.forget c).calls.modify i _ = _
    rw [calls_forget]
  have hfront : (s.forget c).front = s.front := by
    rw [State.forget]
    split <;> rfl
  exact traffic_of_aside hfront (follows_of_stage hcalls hstage) rfl hdelivery

theorem traffic_perform {act : Act} {t : State} (h : t.perform act = (s', shown))
    (hfront : t.front = s.front) (hcalls : t.calls = s.calls)
    (hdelivery : s.delivery setup label = none) : Traffic setup s label s' shown := by
  cases act with
  | announce event =>
    cases h
    exact traffic_of_aside hfront (follows_of_eq hcalls) rfl hdelivery
  | settle k outcome =>
    cases h
    have hfollows : s.Follows (t.settle k outcome) := by
      intro i c' hi
      rw [← hcalls]
      exact follows_settle t k outcome i c' hi
    exact traffic_of_aside hfront hfollows rfl hdelivery

/-- A caller's frame is that of its request. -/
theorem traffic_framed {i : Nat} {c : Call} {seq : Nat} {frame : Bytes}
    (hi : s.calls[i]? = some c) (hseq : c.seq = some seq)
    (hencode : Envelope.encode (.request c.method (UInt64.ofNat seq)) c.payload = .ok frame)
    {event : Event} :
    Traffic setup s (.frame i) (s.setStage i (.queueing frame)) [.event event] := by
  have hi' : (s.setStage i (.queueing frame)).calls[i]?
      = some { c with stage := .queueing frame } := by
    show (s.calls.modify i _)[i]? = _
    rw [List.getElem?_modify_eq, hi]
    rfl
  refine traffic_of_aside rfl (follows_of_stage rfl ?_) rfl rfl
  refine ⟨⟨c.method, UInt64.ofNat seq, c.payload⟩, ⟨i, _, hi', ?_⟩, hencode⟩
  rw [Call.asked?, hseq]
  rfl

/-- Something is put into the outbox. -/
theorem traffic_enqueue {item : Item} (hfollows : s.Follows s')
    (hitems : s'.outbox.items = s.outbox.items ++ [item])
    (hitem : ∀ n body, item = .request n body →
      ∃ (i : Nat) (c : Call), s.calls[i]? = some c ∧ c.stage = .queueing body)
    (hphase : s'.writer.phase = s.writer.phase)
    (hheard : (∀ bytes, label ≠ .arrive bytes) → Heard setup s label s') :
    Traffic setup s label s' [] := by
  refine ⟨hfollows, ?_, ?_, hheard⟩
  · intro n body hbody
    rw [hitems] at hbody
    rcases List.mem_append.mp hbody with hold | hnew
    · exact Or.inl hold
    · exact Or.inr (hitem n body (List.mem_singleton.mp hnew).symm)
  · intro _
    refine ⟨[], ?_, fun _ hbody => by cases hbody⟩
    rw [unwritten_of_phase hphase, Frame.stream_nil, List.append_nil]
    rfl

/-- The writer begins with a frame. -/
theorem traffic_dequeued {seq : Nat} {body frame : Bytes} {items : List Item}
    (hwriter : s.writer = ⟨[], .idle⟩) (hitems : s.outbox.items = .request seq body :: items)
    (hframe : Frame.encode? setup.frameLimit body = .ok frame) :
    Traffic setup s .dequeue { s with
      outbox := { s.outbox with items := items }
      writer := ⟨[], .writing frame⟩ } [] := by
  refine ⟨follows_of_eq rfl, ?_, ?_, fun _ => .nothing rfl rfl rfl⟩
  · intro n b hb
    exact Or.inl (hitems ▸ List.mem_cons_of_mem _ hb)
  · intro _
    rw [Frame.encode?] at hframe
    split at hframe
    · next hlength =>
      cases hframe
      refine ⟨[body], ?_, ?_⟩
      · rw [State.unwritten, hwriter, Frame.stream_cons, Frame.stream_nil, List.append_nil]
        rfl
      · intro b hb
        cases List.mem_singleton.mp hb
        exact ⟨hlength, seq, hitems ▸ List.mem_cons_self⟩
    · cases hframe

/-- A part of a frame goes out. -/
theorem traffic_wrote {n : Nat} {left rest bytes : Bytes} {w : Writer}
    (hphase : s.writer.phase = .writing left) (hleft : left = bytes ++ rest)
    (hrest : State.unwritten { s with writer := w } = rest) :
    Traffic setup s (.write n) { s with writer := w } [.bytes bytes] := by
  refine ⟨follows_of_eq rfl, fun n b hb => Or.inl hb, ?_, fun _ => .nothing rfl rfl rfl⟩
  intro _
  refine ⟨[], ?_, fun _ hbody => by cases hbody⟩
  rw [hrest, State.unwritten, hphase, output, List.flatMap_singleton, Frame.stream_nil,
    List.append_nil]
  exact hleft

/-- The reader goes on after a frame. -/
theorem traffic_decoded {body rest : Bytes} {e : Envelope} (hread : s.isReading = true)
    (hscan : Frame.scan setup.frameLimit s.inbox = .frame body rest)
    (hdecode : Envelope.decode body = .ok e) {p : Pending} {todo : List Act}
    (hout : output shown = []) :
    Traffic setup s .receive { s with
      inbox := rest
      pending := p
      reader := { s.reader with todo := todo } } shown := by
  rw [State.isReading, Bool.and_eq_true, Bool.not_eq_true'] at hread
  have hdelivery : s.delivery setup .receive = some e := by
    simp only [State.delivery, hscan, hdecode, Except.toOption]
  exact traffic_of_silent (follows_of_eq rfl) rfl rfl hout
    fun _ => .frame body e hread.1 hread.1 hscan hdecode hdelivery

theorem traffic_of_move (h : Move setup s label s' shown) : Traffic setup s label s' shown := by
  cases h with
  | began _ _ _ _ => exact traffic_of_aside rfl (follows_of_append rfl trivial) rfl rfl
  | refused _ _ _ _ => exact traffic_of_aside rfl (follows_of_append rfl rfl) rfl rfl
  | framed i c seq frame hi _ hseq hencode => exact traffic_framed hi hseq hencode
  | notFramed i c _ cause _ _ _ _ => exact traffic_forget rfl rfl
  | submitted i c seq frame hi hstage _ _ _ =>
    refine traffic_enqueue (@follows_of_stage s _ i .waiting rfl trivial) rfl ?_ rfl
      fun _ => .nothing rfl rfl rfl
    intro n body heq
    cases heq
    exact ⟨i, c, hi, hstage⟩
  | notSubmitted i c _ _ _ _ _ _ => exact traffic_forget rfl rfl
  | collected i c outcome _ _ _ => exact traffic_of_aside rfl (follows_of_stage rfl trivial) rfl rfl
  | abandoned i c _ _ _ => exact traffic_forget trivial rfl
  | arrived bytes _ =>
    exact traffic_of_silent (follows_of_eq rfl) rfl rfl rfl fun hl => absurd rfl (hl bytes)
  | stray body rest e hread hscan hdecode _ => exact traffic_decoded hread hscan hdecode rfl
  | answered body rest e entry hread hscan hdecode _ =>
    exact traffic_decoded hread hscan hdecode rfl
  | badFrame body rest cause _ hscan hdecode =>
    have hnone : s.delivery setup .receive = none := by
      simp only [State.delivery, hscan, hdecode, Except.toOption]
    exact traffic_of_silent (follows_of_eq rfl) rfl rfl rfl fun _ => .ended rfl hnone
  | tooLarge length rest _ hscan =>
    have hnone : s.delivery setup .receive = none := by simp only [State.delivery, hscan]
    exact traffic_of_silent (follows_of_eq rfl) rfl rfl rfl fun _ => .ended rfl hnone
  | noMore _ hscan _ =>
    have hnone : s.delivery setup .receive = none := by simp only [State.delivery, hscan]
    exact traffic_of_silent (follows_of_eq rfl) rfl rfl rfl fun _ => .ended rfl hnone
  | readFailed cause _ =>
    exact traffic_of_silent (follows_of_eq rfl) rfl rfl rfl fun _ => .ended rfl rfl
  | readerDid act todo _ hperform => exact traffic_perform hperform rfl rfl rfl
  | readerStopped _ _ =>
    exact traffic_of_silent (follows_of_eq rfl) rfl rfl rfl fun _ => .ended rfl rfl
  | dequeued seq body frame items hwriter hitems hframe =>
    exact traffic_dequeued hwriter hitems hframe
  | oversizedStray seq body items cause _ hitems _ _ =>
    exact traffic_of_still (follows_of_eq rfl) (hitems ▸ List.subset_cons_self _ _) rfl rfl
      fun _ => .nothing rfl rfl rfl
  | oversized seq body items cause entry hwriter hitems _ _ =>
    exact traffic_of_still (follows_of_eq rfl) (hitems ▸ List.subset_cons_self _ _)
      (unwritten_of_phase (by rw [hwriter])) rfl fun _ => .nothing rfl rfl rfl
  | toldToClose items hwriter hitems =>
    exact traffic_of_still (follows_of_eq rfl) (hitems ▸ List.subset_cons_self _ _)
      (by rw [State.unwritten, State.unwritten, hwriter]) rfl fun _ => .nothing rfl rfl rfl
  | leftAlone hwriter _ _ =>
    exact traffic_of_still (follows_of_eq rfl) (List.Subset.refl _)
      (by rw [State.unwritten, State.unwritten, hwriter]) rfl fun _ => .nothing rfl rfl rfl
  | wrote n todo left hwriter _ =>
    exact traffic_wrote (by rw [hwriter]) (List.take_append_drop n left).symm rfl
  | wroteLast n todo left hwriter =>
    exact traffic_wrote (by rw [hwriter]) (List.append_nil left).symm rfl
  | writeFailed cause todo left hwriter =>
    exact ⟨follows_of_eq rfl, fun n b hb => Or.inl hb, fun hl => absurd rfl (hl cause),
      fun _ => .nothing rfl rfl rfl⟩
  | writerDid act todo _ hperform => exact traffic_perform hperform rfl rfl rfl
  | outputEnded hwriter =>
    exact traffic_of_still (follows_of_eq rfl) (List.Subset.refl _)
      (by rw [State.unwritten, State.unwritten, hwriter]) rfl fun _ => .nothing rfl rfl rfl
  | retired hwriter =>
    exact traffic_of_still (follows_of_eq rfl) (List.nil_subset _)
      (by rw [State.unwritten, State.unwritten, hwriter]) rfl fun _ => .nothing rfl rfl rfl
  | closerDid k act todo stage _ hperform => exact traffic_perform hperform rfl rfl rfl
  | closeSubmitted k todo _ _ _ =>
    refine traffic_enqueue (follows_of_eq rfl) rfl ?_ rfl fun _ => .nothing rfl rfl rfl
    intro n body heq
    cases heq
  | dropperDid act todo _ hperform => exact traffic_perform hperform rfl rfl rfl
  | _ => exact traffic_of_aside rfl (follows_of_eq rfl) rfl rfl

/-- **What every step of a client writes and takes in.** -/
theorem traffic_of_step (h : step setup s label = some (s', shown)) :
    Traffic setup s label s' shown :=
  traffic_of_move (move_of_step h)

/-- **Whatever goes through the outbox was asked for.** -/
theorem asking_step (hs : Asking s) (hc : Change s act taken s')
    (ht : Traffic setup s label s' shown) : Asking s' := by
  refine hs.of_follows hc ht.follows ?_
  intro n body hbody
  rcases ht.items n body hbody with hold | ⟨i, c, hi, hstage⟩
  · exact Or.inl hold
  · have happroves := hs.stages hi
    rw [hstage] at happroves
    exact Or.inr happroves

end RemoteCall.Client
