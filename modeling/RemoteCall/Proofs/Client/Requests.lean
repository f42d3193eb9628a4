import RemoteCall.Proofs.Client.Outflow
import RemoteCall.Proofs.Client.Conclusion

/-!
# What is put into the outbox

A caller makes the frame body of its request once, holds it while it waits for room in the outbox,
and lets go of it when it hands it over or gives up.  So all that is put into the outbox are the
requests of calls, each under the number of its call, and no call hands over twice (`Asked`).

A closer asks the writer to close after it has shut the table down.  Whatever is put in behind that
belongs to a call that is settled or about to be (`shut_of_posted`).
-/

namespace RemoteCall.Client

variable {setup : Setup} {s s' : State} {label : Label} {shown : List Effect}
  {past : List (Moment State Label Effect)} {limit : Nat} {put : List Item}

/-! ## What callers hold -/

/-- The bytes are the frame body of the call's request, under its number `n`. -/
def Call.Frames (c : Call) (n : Nat) (body : Bytes) : Prop :=
  c.seq = some n ∧ Envelope.encode (.request c.method (UInt64.ofNat n)) c.payload = .ok body

/-- The caller does not hold its frame body any more, and did not fail. -/
def Stage.hasLetGo : Stage → Bool
  | .waiting => true
  | .finished _ => true
  | .abandoned => true
  | _ => false

/-- What a step does to calls, as far as requests go. -/
inductive Pace (s s' : State) : Prop
  | same : s'.calls = s.calls → Pace s s'
  | added (d : Call) : s'.calls = s.calls ++ [d] → (∀ body, d.stage ≠ .queueing body) → Pace s s'
  /-- A caller comes further; what it then holds is the frame body of its request. -/
  | staged (i : Nat) (c : Call) (stage : Stage) : s.calls[i]? = some c →
      s'.calls = s.calls.modify i (fun c => { c with stage := stage }) →
      (c.stage.hasLetGo = true → stage.hasLetGo = true) →
      (∀ body, stage = .queueing body → ∃ n, c.Frames n body) → Pace s s'
  | settled (i : Nat) (outcome : Outcome) : s'.calls = (s.settle i outcome).calls → Pace s s'

/-- A caller that does not hold its frame body for the outbox fails or gives up. -/
theorem pace_forget {i : Nat} {c : Call} {stage : Stage} (hi : s.calls[i]? = some c)
    (hletGo : c.stage.hasLetGo = true → stage.hasLetGo = true)
    (hstage : ∀ body, stage ≠ .queueing body) : Pace s ((s.forget c).setStage i stage) := by
  refine .staged i c stage hi ?_ hletGo fun body heq => absurd heq (hstage body)
  show (s.forget c).calls.modify i _ = _
  rw [calls_forget]

theorem pace_perform {act : Act} {t : State} (h : t.perform act = (s', shown))
    (hcalls : t.calls = s.calls) : Pace s s' := by
  cases act with
  | announce event =>
    cases h
    exact .same hcalls
  | settle i outcome =>
    cases h
    refine .settled i outcome ?_
    show t.calls.modify i _ = s.calls.modify i _
    rw [hcalls]

theorem pace_of_move (h : Move setup s label s' shown) : Pace s s' := by
  cases h with
  | began _ _ _ _ => exact .added _ rfl fun _ heq => by cases heq
  | refused _ _ _ _ => exact .added _ rfl fun _ heq => by cases heq
  | framed i c seq frame hi hstage hseq hencode =>
    refine .staged i c (.queueing frame) hi rfl (fun hletGo => ?_) fun body heq => ?_
    · rw [hstage] at hletGo
      cases hletGo
    · cases heq
      exact ⟨seq, hseq, hencode⟩
  | notFramed i c seq cause hi hstage _ _ =>
    refine pace_forget hi (fun hletGo => ?_) fun _ heq => by cases heq
    rw [hstage] at hletGo
    cases hletGo
  | submitted i c seq frame hi _ _ _ _ =>
    exact .staged i c .waiting hi rfl (fun _ => rfl) fun _ heq => by cases heq
  | notSubmitted i c seq frame hi hstage _ _ =>
    refine pace_forget hi (fun hletGo => ?_) fun _ heq => by cases heq
    rw [hstage] at hletGo
    cases hletGo
  | collected i c outcome hi _ _ =>
    exact .staged i c (.finished outcome) hi rfl (fun _ => rfl) fun _ heq => by cases heq
  | abandoned i c hi _ _ => exact pace_forget hi (fun _ => rfl) fun _ heq => by cases heq
  | readerDid _ _ _ hperform => exact pace_perform hperform rfl
  | writerDid _ _ _ hperform => exact pace_perform hperform rfl
  | closerDid _ _ _ _ _ hperform => exact pace_perform hperform rfl
  | dropperDid _ _ _ hperform => exact pace_perform hperform rfl
  | _ => exact .same rfl

/-- A call keeps its request, and a caller that has let go of it does not get it back. -/
theorem Pace.call_after (h : Pace s s') {i : Nat} {c : Call} (hi : s.calls[i]? = some c) :
    ∃ c', s'.calls[i]? = some c' ∧ (c.stage.hasLetGo = true → c'.stage.hasLetGo = true) ∧
      ∀ n body, c.Frames n body → c'.Frames n body := by
  cases h with
  | same hcalls => exact ⟨c, hcalls ▸ hi, id, fun _ _ => id⟩
  | added d hcalls _ =>
    have hlt := (List.getElem?_eq_some_iff.mp hi).1
    exact ⟨c, by rw [hcalls, List.getElem?_append_left hlt, hi], id, fun _ _ => id⟩
  | staged k d stage hk hcalls hletGo _ =>
    refine ⟨if k = i then { c with stage := stage } else c, ?_, ?_, ?_⟩
    · rw [hcalls, List.getElem?_modify, hi]
      split <;> rfl
    · split
      · next hki =>
        cases (hki ▸ hk).symm.trans hi
        exact hletGo
      · exact id
    · intro n body
      split <;> exact id
  | settled k outcome hcalls =>
    refine ⟨if k = i then if c.isOpen then { c with slot := some outcome } else c else c,
      ?_, ?_, ?_⟩
    · rw [hcalls, State.settle, List.getElem?_modify, hi]
      rfl
    · split
      · split <;> exact id
      · exact id
    · intro n body
      split
      · split <;> exact id
      · exact id

/-- A caller that holds a frame body has just made it, or held it before. -/
theorem Pace.call_before (h : Pace s s') {i : Nat} {c' : Call} {body : Bytes}
    (hi : s'.calls[i]? = some c') (hstage : c'.stage = .queueing body) :
    (∃ n, c'.Frames n body) ∨ ∃ c, s.calls[i]? = some c ∧ c.stage = .queueing body ∧
      ∀ n, c.Frames n body → c'.Frames n body := by
  cases h with
  | same hcalls => exact Or.inr ⟨c', hcalls ▸ hi, hstage, fun _ => id⟩
  | added d hcalls hd =>
    rw [hcalls] at hi
    rcases getElem?_append_singleton hi with hi | ⟨_, rfl⟩
    · exact Or.inr ⟨c', hi, hstage, fun _ => id⟩
    · exact absurd hstage (hd body)
  | staged k d stage hk hcalls _ hframes =>
    rw [hcalls] at hi
    obtain ⟨c, hc, rfl⟩ := getElem?_modify_eq_some hi
    by_cases hki : k = i
    · subst hki
      cases hk.symm.trans hc
      rw [if_pos rfl] at hstage ⊢
      exact Or.inl (hframes body hstage)
    · rw [if_neg hki] at hstage ⊢
      exact Or.inr ⟨c, hc, hstage, fun _ => id⟩
  | settled k outcome hcalls =>
    obtain ⟨c, hc, rfl⟩ := getElem?_settle (hcalls ▸ hi)
    refine Or.inr ⟨c, hc, ?_, fun n => ?_⟩
    · split at hstage <;> exact hstage
    · split <;> exact id

/-! ## Requests in the outbox -/

/-- The number of a request. -/
def Item.number? : Item → Option Nat
  | .request n _ => some n
  | .close => none

/-- The numbers of all requests. -/
def numbers (items : List Item) : List Nat := items.filterMap Item.number?

theorem numbers_append (front back : List Item) :
    numbers (front ++ back) = numbers front ++ numbers back :=
  List.filterMap_append

theorem mem_numbers {items : List Item} {n : Nat} :
    n ∈ numbers items ↔ ∃ body, .request n body ∈ items := by
  rw [numbers, List.mem_filterMap]
  constructor
  · rintro ⟨item, hitem, hn⟩
    cases item with
    | close => cases hn
    | request k body =>
      cases hn
      exact ⟨body, hitem⟩
  · rintro ⟨body, hbody⟩
    exact ⟨_, hbody, rfl⟩

/-- Whatever callers hold, and whatever they have put into the outbox, are their own requests. -/
structure Asked (put : List Item) (s : State) : Prop where
  held : ∀ {i : Nat} {c : Call} {body : Bytes}, s.calls[i]? = some c →
    c.stage = .queueing body → ∃ n, c.Frames n body
  requests : ∀ {n : Nat} {body : Bytes}, .request n body ∈ put →
    ∃ (i : Nat) (c : Call), s.calls[i]? = some c ∧ c.Frames n body ∧ c.stage.hasLetGo = true
  once : (numbers put).Nodup

theorem Asked.mono (h : Asked put s) (hpace : Pace s s') : Asked put s' := by
  refine ⟨?_, ?_, h.once⟩
  · intro i c' body hi hstage
    rcases hpace.call_before hi hstage with hframes | ⟨c, hc, hheld, hkeeps⟩
    · exact hframes
    · obtain ⟨n, hframes⟩ := h.held hc hheld
      exact ⟨n, hkeeps n hframes⟩
  · intro n body hbody
    obtain ⟨i, c, hi, hframes, hletGo⟩ := h.requests hbody
    obtain ⟨c', hi', hletGo', hkeeps⟩ := hpace.call_after hi
    exact ⟨i, c', hi', hkeeps n body hframes, hletGo' hletGo⟩

/-- The number of a caller that still holds its frame body was not put in before. -/
theorem Asked.not_mem_numbers (h : Asked put s) (hs : Numbered s) {i n : Nat} {c : Call}
    {body : Bytes} (hi : s.calls[i]? = some c) (hstage : c.stage = .queueing body)
    (hseq : c.seq = some n) : n ∉ numbers put := by
  intro hn
  obtain ⟨body', hbody'⟩ := mem_numbers.mp hn
  obtain ⟨j, d, hj, hframes, hletGo⟩ := h.requests hbody'
  cases hs.inj hj hi hframes.1 hseq
  cases hj.symm.trans hi
  rw [hstage] at hletGo
  cases hletGo

/-- A caller hands its request over. -/
theorem Asked.handOver (h : Asked put s) (hs : Numbered s) (hpace : Pace s s') {i n : Nat}
    {c : Call} {body : Bytes} (hi : s.calls[i]? = some c) (hstage : c.stage = .queueing body)
    (hseq : c.seq = some n) (hi' : s'.calls[i]? = some { c with stage := .waiting }) :
    Asked (put ++ [.request n body]) s' := by
  have hmono := h.mono hpace
  refine ⟨hmono.held, ?_, ?_⟩
  · intro k b hb
    rcases List.mem_append.mp hb with hb | hb
    · exact hmono.requests hb
    · cases List.mem_singleton.mp hb
      obtain ⟨m, hframes⟩ := h.held hi hstage
      cases hframes.1.symm.trans hseq
      exact ⟨i, { c with stage := .waiting }, hi', hframes, rfl⟩
  · have hnot := h.not_mem_numbers hs hi hstage hseq
    rw [numbers_append]
    refine List.nodup_append.mpr ⟨h.once, List.pairwise_singleton _ n, ?_⟩
    intro k hk m hm heq
    cases List.mem_singleton.mp hm
    exact hnot (heq ▸ hk)

/-- **Requests go into the outbox once**, each from its own caller. -/
theorem Asked.haul {ins outs : List Item} {more : Bytes} (h : Asked put s) (hs : Numbered s)
    (hpace : Pace s s') (hhaul : Haul limit s s' ins outs more) : Asked (put ++ ins) s' := by
  have hmono := h.mono hpace
  cases hhaul with
  | handedOver i c n body hi hstage hseq _ _ _ hi' => exact h.handOver hs hpace hi hstage hseq hi'
  | askedToClose k c _ _ _ _ _ =>
    refine ⟨hmono.held, fun hbody => ?_, ?_⟩
    · rcases List.mem_append.mp hbody with hbody | hbody
      · exact hmono.requests hbody
      · cases List.mem_singleton.mp hbody
    · rw [numbers_append]
      exact (List.append_nil (numbers put)).symm ▸ h.once
  | _ =>
    rw [List.append_nil]
    exact hmono

/-- Only closers ask the writer to close. -/
theorem Haul.closers {ins outs : List Item} {more : Bytes} (h : Haul limit s s' ins outs more)
    (hclose : .close ∈ ins) : 0 < s.closers.length := by
  cases h with
  | handedOver _ _ _ _ _ _ _ _ _ _ _ => cases List.mem_singleton.mp hclose
  | askedToClose k c hk _ _ _ _ => exact List.length_pos_of_mem (List.mem_of_getElem? hk)
  | _ => cases hclose

end RemoteCall.Client
