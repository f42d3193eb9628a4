import RemoteCall.Proofs.Conversation.Asking

/-!
# What goes through the outbox

Callers and closers put things into the outbox, and the writer takes them out, first one first, and
writes them.  `posted`, `fetched` and `written` are what a run put in, took out and wrote, and
`Haul` lists what a step can mean to the three as long as writing does not fail (`haul_of_move`).

Whoever puts something into the outbox uses the client.  Once the last user has let go of it, nobody
uses it again (`Deserted`), so a writer that finds the outbox empty then has seen everything.
-/

namespace RemoteCall.Client

variable {setup : Setup} {s s' : State} {label : Label} {shown : List Effect}
  {past : List (Moment State Label Effect)} {limit : Nat}

/-! ## In, out and on -/

/-- What a step puts into the outbox. -/
def posting (m : Moment State Label Effect) : List Item :=
  match m.label with
  | .submit _ => m.after.outbox.items.drop m.before.outbox.items.length
  | .submitClose _ => m.after.outbox.items.drop m.before.outbox.items.length
  | _ => []

/-- What the writer takes out of the outbox in a step. -/
def fetching (m : Moment State Label Effect) : List Item :=
  match m.label with
  | .dequeue => m.before.outbox.items.take 1
  | _ => []

/-- All that was put into the outbox, in order. -/
def posted (past : List (Moment State Label Effect)) : List Item := past.flatMap posting

/-- All that the writer took out of the outbox, in order. -/
def fetched (past : List (Moment State Label Effect)) : List Item := past.flatMap fetching

/-- All bytes that were written. -/
def written (past : List (Moment State Label Effect)) : Bytes :=
  past.flatMap fun m => output m.shown

theorem posted_append (early late : List (Moment State Label Effect)) :
    posted (early ++ late) = posted early ++ posted late := List.flatMap_append

theorem fetched_append (early late : List (Moment State Label Effect)) :
    fetched (early ++ late) = fetched early ++ fetched late := List.flatMap_append

theorem written_append (early late : List (Moment State Label Effect)) :
    written (early ++ late) = written early ++ written late := List.flatMap_append

theorem posted_singleton (m : Moment State Label Effect) : posted [m] = posting m :=
  List.flatMap_singleton ..

theorem fetched_singleton (m : Moment State Label Effect) : fetched [m] = fetching m :=
  List.flatMap_singleton ..

theorem written_singleton (m : Moment State Label Effect) : written [m] = output m.shown :=
  List.flatMap_singleton ..

/-! ## Items -/

/-- The body of a request whose frame is within the limit. -/
def Item.bodyWithin (limit : Nat) : Item → Option Bytes
  | .request _ body => if body.length ≤ limit then some body else none
  | .close => none

/-- The bodies of all requests whose frames are within the limit. -/
def bodiesWithin (limit : Nat) (items : List Item) : List Bytes :=
  items.filterMap (Item.bodyWithin limit)

/-- What stands ahead of the first request to close. -/
def ahead : List Item → List Item
  | [] => []
  | .close :: _ => []
  | .request n body :: items => .request n body :: ahead items

theorem bodiesWithin_append (limit : Nat) (front back : List Item) :
    bodiesWithin limit (front ++ back) = bodiesWithin limit front ++ bodiesWithin limit back :=
  List.filterMap_append

theorem bodiesWithin_close (limit : Nat) : bodiesWithin limit [.close] = [] := rfl

theorem bodiesWithin_of_le {n : Nat} {body : Bytes} (h : body.length ≤ limit) :
    bodiesWithin limit [.request n body] = [body] := by
  rw [bodiesWithin, List.filterMap_cons, Item.bodyWithin, if_pos h]
  rfl

theorem bodiesWithin_of_lt {n : Nat} {body : Bytes} (h : limit < body.length) :
    bodiesWithin limit [.request n body] = [] := by
  rw [bodiesWithin, List.filterMap_cons, Item.bodyWithin, if_neg (Nat.not_le.mpr h)]
  rfl

theorem bodyWithin_eq_some {item : Item} {body : Bytes} (h : item.bodyWithin limit = some body) :
    ∃ n, item = .request n body ∧ body.length ≤ limit := by
  cases item with
  | close => cases h
  | request n b =>
    rw [Item.bodyWithin] at h
    split at h
    · next hle =>
      cases h
      exact ⟨n, rfl, hle⟩
    · cases h

theorem length_le_of_mem_bodiesWithin {items : List Item} {body : Bytes}
    (h : body ∈ bodiesWithin limit items) : body.length ≤ limit := by
  obtain ⟨item, _, hbody⟩ := List.mem_filterMap.mp h
  obtain ⟨_, _, hle⟩ := bodyWithin_eq_some hbody
  exact hle

theorem ahead_append_of_not_mem {front : List Item} (h : .close ∉ front) (back : List Item) :
    ahead (front ++ back) = front ++ ahead back := by
  induction front with
  | nil => rfl
  | cons item front ih =>
    have hrest := ih fun hmem => h (List.mem_cons_of_mem _ hmem)
    cases item with
    | close => exact absurd List.mem_cons_self h
    | request n body => rw [List.cons_append, ahead, hrest, List.cons_append]

/-- What is put behind a request to close is not ahead of it. -/
theorem ahead_append_of_mem {items : List Item} (h : .close ∈ items) (more : List Item) :
    ahead (items ++ more) = ahead items := by
  induction items with
  | nil => cases h
  | cons item items ih =>
    cases item with
    | close => rfl
    | request n body =>
      have hmem : .close ∈ items := (List.mem_cons.mp h).resolve_left fun heq => by cases heq
      rw [List.cons_append, ahead, ahead, ih hmem]

/-- What a step can mean to the outbox and to the writer: what is put in, taken out and written. -/
inductive Haul (limit : Nat) (s s' : State) : List Item → List Item → Bytes → Prop
  /-- It does not concern them. -/
  | aside : s'.outbox = s.outbox → s'.writer.phase = s.writer.phase → Haul limit s s' [] [] []
  /-- A caller hands its request over. -/
  | handedOver (i : Nat) (c : Call) (n : Nat) (body : Bytes) : s.calls[i]? = some c →
      c.stage = .queueing body → c.seq = some n → s.outbox.isOpen = true →
      s'.outbox = { s.outbox with items := s.outbox.items ++ [.request n body] } →
      s'.writer.phase = s.writer.phase → s'.calls[i]? = some { c with stage := .waiting } →
      Haul limit s s' [.request n body] [] []
  /-- A closer asks the writer to close. -/
  | askedToClose (k : Nat) (c : Closer) : s.closers[k]? = some c → c.stage = .queueing →
      s.outbox.isOpen = true →
      s'.outbox = { s.outbox with items := s.outbox.items ++ [.close] } →
      s'.writer.phase = s.writer.phase → Haul limit s s' [.close] [] []
  /-- The writer begins with a frame. -/
  | began (n : Nat) (body : Bytes) : s.writer.phase = .idle →
      s.outbox.items = .request n body :: s'.outbox.items → s'.outbox.isOpen = s.outbox.isOpen →
      body.length ≤ limit → s'.writer.phase = .writing (Frame.encode body) →
      Haul limit s s' [] [.request n body] []
  /-- The writer refuses a request. -/
  | refused (n : Nat) (body : Bytes) : s.writer.phase = .idle →
      s.outbox.items = .request n body :: s'.outbox.items → s'.outbox.isOpen = s.outbox.isOpen →
      limit < body.length → s'.writer.phase = .idle → Haul limit s s' [] [.request n body] []
  /-- The writer is told to close. -/
  | toldToClose : s.writer.phase = .idle → s.outbox.items = .close :: s'.outbox.items →
      s'.outbox.isOpen = s.outbox.isOpen → s'.writer.phase = .closing →
      Haul limit s s' [] [.close] []
  /-- The writer finds that nothing will come any more. -/
  | leftAlone : s.writer.phase = .idle → s.outbox.items = [] → s.dropped.isSome = true →
      s'.outbox = s.outbox → s'.writer.phase = .closing → Haul limit s s' [] [] []
  /-- Some bytes of a frame go out, but not the last one. -/
  | wrote (bytes rest : Bytes) : s.writer.phase = .writing (bytes ++ rest) → rest ≠ [] →
      s'.outbox = s.outbox → s'.writer.phase = .writing rest → Haul limit s s' [] [] bytes
  | wroteLast (left : Bytes) : s.writer.phase = .writing left → s'.outbox = s.outbox →
      s'.writer.phase = .idle → Haul limit s s' [] [] left
  | outputEnded : s.writer.phase = .closing → s'.outbox = s.outbox → s'.writer.phase = .closed →
      Haul limit s s' [] [] []
  | retired : s.writer.phase = .closed → s'.outbox.isOpen = false → s'.writer.phase = .ended →
      Haul limit s s' [] [] []

/-- Whoever does an act changes nothing but calls. -/
theorem perform_frame {act : Act} {t : State} (h : t.perform act = (s', shown)) :
    s' = { t with calls := s'.calls } := by
  cases act <;> cases h <;> rfl

/-- A caller that goes changes nothing but the table, apart from its own stage. -/
theorem forget_frame (s : State) (c : Call) :
    s.forget c = { s with pending := (s.forget c).pending } := by
  rw [State.forget]
  split <;> rfl

theorem outbox_forget (s : State) (c : Call) : (s.forget c).outbox = s.outbox := by
  rw [forget_frame]

theorem haul_forget (s : State) (c : Call) (i : Nat) (stage : Stage) :
    Haul limit s ((s.forget c).setStage i stage) [] [] [] :=
  .aside (outbox_forget s c) (congrArg Writer.phase (writer_forget s c))

/-- Nobody's act concerns the outbox. -/
theorem haul_perform {act : Act} {t : State} (h : t.perform act = (s', shown))
    (houtbox : t.outbox = s.outbox) (hphase : t.writer.phase = s.writer.phase) :
    Haul limit s s' [] [] (output shown) := by
  cases act with
  | announce event =>
    cases h
    exact .aside houtbox hphase
  | settle i outcome =>
    cases h
    exact .aside houtbox hphase

theorem fetching_of_cons {item : Item} {items : List Item} (h : s.outbox.items = item :: items) :
    fetching ⟨s, .dequeue, s', shown⟩ = [item] := by
  rw [fetching, h]
  rfl

/-- **What a step means to the outbox and to the writer**, unless writing fails. -/
theorem haul_of_move (h : Move setup s label s' shown) (hl : ∀ cause, label ≠ .failWrite cause) :
    Haul setup.frameLimit s s' (posting ⟨s, label, s', shown⟩) (fetching ⟨s, label, s', shown⟩)
      (output shown) := by
  cases h with
  | notFramed i c _ _ _ _ _ _ => exact haul_forget s c i _
  | submitted i c seq frame hi hstage hseq hopen _ =>
    have hput : posting ⟨s, .submit i, ({ s with
        outbox := { s.outbox with items := s.outbox.items ++ [Item.request seq frame] }
        }.setStage i .waiting), []⟩ = [.request seq frame] := List.drop_left
    rw [hput]
    refine .handedOver i c seq frame hi hstage hseq hopen rfl rfl ?_
    show (s.calls.modify i _)[i]? = _
    rw [List.getElem?_modify_eq, hi]
    rfl
  | notSubmitted i c _ _ _ _ _ _ =>
    have hput : posting ⟨s, .submit i, s.fail i c .closed, []⟩ = [] := by
      show (s.forget c).outbox.items.drop s.outbox.items.length = []
      rw [outbox_forget, List.drop_length]
    rw [hput]
    exact haul_forget s c i _
  | abandoned i c _ _ _ => exact haul_forget s c i _
  | readerDid act todo _ hperform => exact haul_perform hperform rfl rfl
  | dequeued seq body frame items hwriter hitems hframe =>
    rw [fetching_of_cons hitems]
    rw [Frame.encode?] at hframe
    split at hframe
    · next hle =>
      cases hframe
      exact .began seq body (congrArg Writer.phase hwriter) hitems rfl hle rfl
    · cases hframe
  | oversizedStray seq body items cause hwriter hitems hframe _ =>
    rw [fetching_of_cons hitems]
    rw [Frame.encode?] at hframe
    split at hframe
    · cases hframe
    · next hlt =>
      have hidle := congrArg Writer.phase hwriter
      exact .refused seq body hidle hitems rfl (Nat.lt_of_not_le hlt) hidle
  | oversized seq body items cause entry hwriter hitems hframe _ =>
    rw [fetching_of_cons hitems]
    rw [Frame.encode?] at hframe
    split at hframe
    · cases hframe
    · next hlt =>
      exact .refused seq body (congrArg Writer.phase hwriter) hitems rfl (Nat.lt_of_not_le hlt) rfl
  | toldToClose items hwriter hitems =>
    rw [fetching_of_cons hitems]
    exact .toldToClose (congrArg Writer.phase hwriter) hitems rfl rfl
  | leftAlone hwriter hitems hdropped =>
    have htake : fetching ⟨s, .dequeue, { s with writer := ⟨[], .closing⟩ }, []⟩ = [] := by
      rw [fetching, hitems]
      rfl
    rw [htake]
    exact .leftAlone (congrArg Writer.phase hwriter) hitems (by rw [hdropped]; rfl) rfl rfl
  | wrote n todo left hwriter hne =>
    have hout : output [.bytes (left.take n)] = left.take n := List.append_nil _
    rw [hout]
    refine .wrote (left.take n) (left.drop n) ?_ hne rfl rfl
    rw [List.take_append_drop, hwriter]
  | wroteLast n todo left hwriter =>
    have hout : output [.bytes left] = left := List.append_nil _
    rw [hout]
    exact .wroteLast left (congrArg Writer.phase hwriter) rfl rfl
  | writeFailed cause _ _ _ => exact absurd rfl (hl cause)
  | writerDid act todo _ hperform => exact haul_perform hperform rfl rfl
  | outputEnded hwriter => exact .outputEnded (congrArg Writer.phase hwriter) rfl rfl
  | retired hwriter => exact .retired (congrArg Writer.phase hwriter) rfl rfl
  | closerDid k act todo stage _ hperform => exact haul_perform hperform rfl rfl
  | closeSubmitted k todo hk hopen _ =>
    have hput : posting ⟨s, .submitClose k, ({ s with
        outbox := { s.outbox with items := s.outbox.items ++ [Item.close] }
        }.setCloser k ⟨todo, .waiting⟩), []⟩ = [.close] := List.drop_left
    rw [hput]
    exact .askedToClose k _ hk rfl hopen rfl rfl
  | closeNotSubmitted k todo _ _ =>
    have hput : posting ⟨s, .submitClose k, s.setCloser k ⟨todo, .returned⟩, []⟩ = [] :=
      List.drop_length
    rw [hput]
    exact .aside rfl rfl
  | dropperDid act todo _ hperform => exact haul_perform hperform rfl rfl
  | _ => exact .aside rfl rfl

/-! ## Nobody is left -/

/-- Once the last user has let go of the client, nobody uses it again. -/
def Deserted (s : State) : Prop := s.dropped.isSome = true → s.isUsed = false

theorem isUsed_iff : s.isUsed = true ↔ s.held = true ∨
    (∃ c ∈ s.calls, c.holdsClient = true) ∨ ∃ c ∈ s.closers, c.stage ≠ .returned := by
  simp only [State.isUsed, Bool.or_eq_true, List.any_eq_true, decide_eq_true_iff, or_assoc]

theorem Deserted.mono (h : Deserted s) (hdropped : s'.dropped.isSome = s.dropped.isSome)
    (hused : s'.isUsed = true → s.isUsed = true) : Deserted s' := by
  intro hsome
  rw [← Bool.not_eq_true]
  intro hused'
  have hunused := h (hdropped ▸ hsome)
  rw [hused hused'] at hunused
  cases hunused

/-- A step that only changes where a caller is, who used the client before. -/
theorem Deserted.stage {i : Nat} {c : Call} {stage : Stage} (h : Deserted s)
    (hi : s.calls[i]? = some c)
    (hholds : { c with stage := stage }.holdsClient = true → c.holdsClient = true)
    (hcalls : s'.calls = s.calls.modify i fun c => { c with stage := stage })
    (hdropped : s'.dropped = s.dropped) (hheld : s'.held = s.held)
    (hclosers : s'.closers = s.closers) : Deserted s' := by
  refine h.mono (congrArg _ hdropped) ?_
  rw [isUsed_iff, isUsed_iff, hheld, hclosers]
  refine Or.imp_right (Or.imp_left ?_)
  rintro ⟨c', hc', hholds'⟩
  obtain ⟨j, hj⟩ := List.getElem?_of_mem hc'
  rw [hcalls] at hj
  obtain ⟨d, hd, rfl⟩ := getElem?_modify_eq_some hj
  by_cases hij : i = j
  · subst hij
    cases hi.symm.trans hd
    rw [if_pos rfl] at hholds'
    exact ⟨c, List.mem_of_getElem? hi, hholds hholds'⟩
  · rw [if_neg hij] at hholds'
    exact ⟨d, List.mem_of_getElem? hd, hholds'⟩

/-- A step that only changes how far a closer is, who had not returned. -/
theorem Deserted.closer {k : Nat} {c d : Closer} (h : Deserted s) (hk : s.closers[k]? = some c)
    (hstage : d.stage ≠ .returned → c.stage ≠ .returned)
    (hclosers : s'.closers = s.closers.set k d) (hdropped : s'.dropped = s.dropped)
    (hheld : s'.held = s.held) (hcalls : s'.calls = s.calls) : Deserted s' := by
  refine h.mono (congrArg _ hdropped) ?_
  rw [isUsed_iff, isUsed_iff, hheld, hcalls, hclosers]
  refine Or.imp_right (Or.imp_right ?_)
  rintro ⟨c', hc', hstage'⟩
  rcases List.mem_or_eq_of_mem_set hc' with hc' | rfl
  · exact ⟨c', hc', hstage'⟩
  · exact ⟨c, List.mem_of_getElem? hk, hstage hstage'⟩

theorem isUsed_settle (s : State) (i : Nat) (outcome : Outcome) :
    (s.settle i outcome).isUsed = true → s.isUsed = true := by
  rw [isUsed_iff, isUsed_iff]
  refine Or.imp_right (Or.imp_left ?_)
  rintro ⟨c', hc', hholds⟩
  obtain ⟨j, hj⟩ := List.getElem?_of_mem hc'
  obtain ⟨d, hd, rfl⟩ := getElem?_settle hj
  refine ⟨d, List.mem_of_getElem? hd, ?_⟩
  split at hholds <;> exact hholds

theorem deserted_perform {act : Act} {t : State} (h : t.perform act = (s', shown))
    (ht : Deserted t) : Deserted s' := by
  cases act with
  | announce event =>
    cases h
    exact ht
  | settle i outcome =>
    cases h
    exact ht.mono rfl (isUsed_settle t i outcome)

/-- A caller that goes does not need the client any more. -/
theorem deserted_gone {i : Nat} {c : Call} {stage : Stage} (h : Deserted s)
    (hi : s.calls[i]? = some c) (hgone : { c with stage := stage }.holdsClient = false) :
    Deserted ((s.forget c).setStage i stage) := by
  have hforget : Deserted (s.forget c) := by
    rw [State.forget]
    split <;> exact h
  refine hforget.stage (by rw [calls_forget, hi]) ?_ rfl rfl rfl rfl
  intro hholds
  rw [hgone] at hholds
  cases hholds

theorem deserted_step (hs : Deserted s) (h : step setup s label = some (s', shown)) :
    Deserted s' := by
  cases move_of_step h with
  | began method payload keepsClient _ =>
    -- a call is begun by somebody who uses the client
    have hheld : s.held = true := by
      rw [step] at h
      split at h
      · assumption
      · cases h
    exact hs.mono rfl fun _ => isUsed_iff.mpr (Or.inl hheld)
  | refused method payload keepsClient _ =>
    refine hs.mono rfl ?_
    rw [isUsed_iff, isUsed_iff]
    refine Or.imp_right (Or.imp_left ?_)
    rintro ⟨c, hc, hholds⟩
    rcases List.mem_append.mp hc with hc | hc
    · exact ⟨c, hc, hholds⟩
    · cases List.mem_singleton.mp hc
      cases hholds
  | framed i c seq frame hi hstage _ _ =>
    exact hs.stage hi (fun _ => by rw [Call.holdsClient, hstage]) rfl rfl rfl rfl
  | notFramed i c seq cause hi _ _ _ =>
    exact deserted_gone hs hi rfl
  | submitted i c seq frame hi hstage _ _ _ =>
    exact hs.stage hi (fun _ => by rw [Call.holdsClient, hstage]) rfl rfl rfl rfl
  | notSubmitted i c seq frame hi _ _ _ =>
    exact deserted_gone hs hi rfl
  | collected i c outcome hi _ _ => exact hs.stage hi (fun hh => by cases hh) rfl rfl rfl rfl
  | abandoned i c hi _ _ => exact deserted_gone hs hi rfl
  | readerDid act todo _ hperform => exact deserted_perform hperform hs
  | writerDid act todo _ hperform => exact deserted_perform hperform hs
  | closed hheld => exact hs.mono rfl fun _ => isUsed_iff.mpr (Or.inl hheld)
  | closerDid k act todo stage hk hperform =>
    refine deserted_perform hperform ?_
    exact @Deserted.closer s _ k _ ⟨todo, stage⟩ hs hk (fun hh => hh) rfl rfl rfl rfl
  | readerAborted k hk => exact hs.closer hk (fun _ hh => by cases hh) rfl rfl rfl rfl
  | closeSubmitted k todo hk _ _ => exact hs.closer hk (fun _ hh => by cases hh) rfl rfl rfl rfl
  | closeNotSubmitted k todo hk _ => exact hs.closer hk (fun hh => absurd rfl hh) rfl rfl rfl rfl
  | closeReturned k todo hk _ => exact hs.closer hk (fun hh => absurd rfl hh) rfl rfl rfl rfl
  | released _ =>
    refine hs.mono rfl ?_
    rw [isUsed_iff, isUsed_iff]
    exact Or.imp_left fun hh => by cases hh
  | dropped hunused _ => exact fun _ => hunused
  | dropperDid act todo hdropped hperform =>
    have hsome : s.dropped.isSome = true := by rw [hdropped]; rfl
    exact deserted_perform hperform fun _ => hs hsome
  | _ => exact hs

theorem deserted_of_run (h : Run (step setup) start past s) : Deserted s := by
  induction h with
  | start => exact fun hsome => by cases hsome
  | snoc _ hstep ih => exact deserted_step ih hstep

/-- Whoever has let go of the client does not come back. -/
theorem dropped_step (h : step setup s label = some (s', shown)) (hs : s.dropped.isSome = true) :
    s'.dropped.isSome = true := by
  have hforget (c : Call) : (s.forget c).dropped = s.dropped := by
    rw [forget_frame]
  cases move_of_step h with
  | notFramed i c _ _ _ _ _ _ => exact (hforget c).symm ▸ hs
  | notSubmitted i c _ _ _ _ _ _ => exact (hforget c).symm ▸ hs
  | abandoned i c _ _ _ => exact (hforget c).symm ▸ hs
  | readerDid _ _ _ hperform =>
    rw [perform_frame hperform]
    exact hs
  | writerDid _ _ _ hperform =>
    rw [perform_frame hperform]
    exact hs
  | closerDid _ _ _ _ _ hperform =>
    rw [perform_frame hperform]
    exact hs
  | dropperDid _ _ _ hperform =>
    rw [perform_frame hperform]
    rfl
  | dropped _ _ => rfl
  | _ => exact hs

end RemoteCall.Client
