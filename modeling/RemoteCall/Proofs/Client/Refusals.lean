import RemoteCall.Proofs.Client.Requests
import RemoteCall.Proofs.Client.Table

/-!
# Requests that are not written

A request is not written if it is over the limit, or if it lies behind a request to close.  The
first kind the writer refuses: it writes nothing, takes the call off the table if it is still on it,
and settles it (`Refuses`).  The second kind belongs to calls that the closer has found on the
table, or that left it before.

Either way the call is off the table.  What was found for it by then is what it receives, and never
anything else (`decided_of_run`).
-/

namespace RemoteCall.Client

variable {setup : Setup} {s s' : State} {act : Option Act} {taken : Option Envelope}
  {label : Label} {shown : List Effect} {past late : List (Moment State Label Effect)}
  {limit n : Nat} {body : Bytes}

/-! ## What is decided stays decided -/

/-- Who has let go of the frame body did not fail, and so can have left only by giving up. -/
theorem Call.IsGone.abandoned {c : Call} (h : c.IsGone) (hletGo : c.stage.hasLetGo = true) :
    c.stage = .abandoned := by
  rcases h with habandoned | ⟨cause, hfailed⟩
  · exact habandoned
  · rw [hfailed] at hletGo
    cases hletGo

/-! ## Requests over the limit -/

/-- What it means for a call that its request is over the limit. -/
def refusal (limit : Nat) (body : Bytes) : Outcome :=
  .error (.link (Frame.overLimit body.length limit))

/-- The writer refuses a request: none of it goes out, and no call but its own is concerned. -/
structure Refuses (limit : Nat) (m : Moment State Label Effect) (n : Nat) (body : Bytes) :
    Prop where
  shown : m.shown = []
  calls : m.after.calls = m.before.calls
  /-- If the call is still on the table, it is taken off, and the writer is bound to settle it. -/
  own : m.before.pending.find n = none ∧ m.after.pending = m.before.pending ∧
      m.after.todo = m.before.todo ∨
    ∃ i, m.before.pending.find n = some ⟨n, i⟩ ∧
      m.after.pending = m.before.pending.remove n ∧
      m.after.todo.Perm (.settle i (refusal limit body) :: m.before.todo)
  /-- The others stay on the table, and are owed what they were owed. -/
  others : ∀ (j : Nat) (c : Call), m.before.calls[j]? = some c → c.seq ≠ some n →
    m.after.waiting j = m.before.waiting j ∧ (m.after.owed j).Perm (m.before.owed j)

/-- What was found for a call that is refused is the refusal. -/
theorem Refuses.decided {m : Moment State Label Effect} (h : Refuses limit m n body)
    (hs : Numbered m.before) (ht : Tokens past m.before) (hact : m.before.nextAct m.label = none)
    {i : Nat} (hfind : m.before.pending.find n = some ⟨n, i⟩) :
    m.after.waiting i = [] ∧ (decided (past ++ [m]) m.after i).Perm [refusal limit body] := by
  obtain ⟨hentry, _⟩ := mem_entries_of_find hfind
  obtain ⟨c, hc, hseq⟩ := hs.ofEntry hentry
  rcases h.own with ⟨hnone, _, _⟩ | ⟨j, hfound, hpending, htodo⟩
  · rw [hnone] at hfind
    cases hfind
  · cases hfound.symm.trans hfind
    have hbefore := ht.decided_of_mem_waiting (mem_waiting.mpr ⟨hentry, rfl⟩)
    obtain ⟨hreceived, howed⟩ := List.append_eq_nil_iff.mp hbefore
    have howed' := @owed_perm m.before m.after [.settle i (refusal limit body)] htodo i
    rw [List.filterMap_cons, Act.outcomeFor_self, List.filterMap_nil, howed] at howed'
    refine ⟨(waiting_of_remove hs hc hseq hpending i).trans (if_pos rfl), ?_⟩
    have hreceived' : received (past ++ [m]) i = [] := by
      rw [received_snoc, hreceived, hact]
      rfl
    rw [Client.decided, hreceived']
    exact howed'

/-! ## Outcomes reach only their own calls -/

end RemoteCall.Client
