import RemoteCall.Frame.Receive
import RemoteCall.Proofs.Frame.Stream

/-!
# What a receiver sees of a stream

Without a timeout a receiver waits as long as it takes, so neither the cuts between the pieces nor
the times at which they arrive make a difference.  Waiting for `n` bytes gives the first `n` of all
that are still to arrive, or fails because the stream ends before (`gather_of_enough`,
`gather_of_few`).  So `receive` does to a stream that arrives in pieces what `scan` does to its
bytes (`receive_of_frame`, `receive_of_tooLarge`, `receive_of_short`), and receiving again and again
yields what `yields` reads off the bytes (`receiveAll_eq_yields`).
-/

namespace RemoteCall.Frame

/-- All bytes that are still to arrive. -/
def Inflow.bytes (inflow : Inflow) : Bytes :=
  inflow.pieces.flatMap fun piece => piece.2

/-- The stream ends at some time. -/
def Inflow.Ends (inflow : Inflow) : Prop := inflow.ending.isSome = true

/-! ## Waiting for bytes -/

/-- If there are enough bytes, the first of them are taken and the others are left. -/
theorem gather_of_enough {ending : Option Nat} {n time : Nat} {got : Bytes}
    {pieces : List (Nat × Bytes)} (h : n ≤ (got ++ Inflow.bytes ⟨pieces, ending⟩).length) :
    ∃ t rest, gather none ending n got time pieces
        = .got ((got ++ Inflow.bytes ⟨pieces, ending⟩).take n) t rest ∧
      rest.bytes = (got ++ Inflow.bytes ⟨pieces, ending⟩).drop n ∧ rest.ending = ending := by
  induction pieces generalizing got time with
  | nil =>
    have hgot : got ++ Inflow.bytes ⟨[], ending⟩ = got := List.append_nil got
    rw [hgot] at h ⊢
    have hlong : ¬ got.length < n := by omega
    rw [gather, Bytes.isShorter_eq, decide_eq_false hlong]
    exact ⟨time, _, rfl, List.append_nil _, rfl⟩
  | cons piece pieces ih =>
    obtain ⟨t, bytes⟩ := piece
    have hall : got ++ Inflow.bytes ⟨(t, bytes) :: pieces, ending⟩
        = got ++ bytes ++ Inflow.bytes ⟨pieces, ending⟩ := (List.append_assoc ..).symm
    by_cases hshort : got.length < n
    · -- the next piece is awaited
      rw [hall] at h ⊢
      rw [gather, Bytes.isShorter_eq, decide_eq_true hshort]
      exact ih h
    · rw [gather, Bytes.isShorter_eq, decide_eq_false hshort]
      have hn : n ≤ got.length := by omega
      refine ⟨time, ⟨(time, got.drop n) :: (t, bytes) :: pieces, ending⟩, ?_, ?_, rfl⟩
      · rw [List.take_append_of_le_length hn]
        rfl
      · rw [List.drop_append_of_le_length hn]
        rfl

/-- If the stream ends before there are enough bytes, waiting fails. -/
theorem gather_of_few {e n time : Nat} {got : Bytes} {pieces : List (Nat × Bytes)}
    (h : (got ++ Inflow.bytes ⟨pieces, some e⟩).length < n) :
    ∃ t rest, gather none (some e) n got time pieces = .failed .closed t rest := by
  have hshort : got.length < n := by
    rw [List.length_append] at h
    omega
  induction pieces generalizing got time with
  | nil =>
    rw [gather, Bytes.isShorter_eq, decide_eq_true hshort]
    exact ⟨max time e, ⟨[], some e⟩, rfl⟩
  | cons piece pieces ih =>
    obtain ⟨t, bytes⟩ := piece
    have hall : got ++ Inflow.bytes ⟨(t, bytes) :: pieces, some e⟩
        = got ++ bytes ++ Inflow.bytes ⟨pieces, some e⟩ := (List.append_assoc ..).symm
    rw [hall] at h
    rw [gather, Bytes.isShorter_eq, decide_eq_true hshort]
    refine ih h ?_
    rw [List.length_append] at h
    omega

theorem Inflow.gather_of_splitFront {inflow : Inflow} {time n : Nat} {front rest : Bytes}
    (h : Bytes.splitFront n inflow.bytes = some (front, rest)) :
    ∃ t after, inflow.gather none time n = .got front t after ∧ after.bytes = rest ∧
      after.ending = inflow.ending := by
  obtain ⟨hbytes, hlength⟩ := Bytes.splitFront_eq_some_iff.mp h
  have henough : n ≤ ([] ++ inflow.bytes).length := by
    rw [List.nil_append, hbytes, List.length_append]
    omega
  obtain ⟨t, after, hgather, hafter, hending⟩ :=
    @gather_of_enough inflow.ending n time [] inflow.pieces henough
  have hall : [] ++ Inflow.bytes ⟨inflow.pieces, inflow.ending⟩ = front ++ rest := hbytes
  rw [hall, List.take_left' hlength] at hgather
  rw [hall, List.drop_left' hlength] at hafter
  exact ⟨t, after, hgather, hafter, hending⟩

theorem Inflow.gather_of_splitFront_eq_none {inflow : Inflow} {time n : Nat} (hends : inflow.Ends)
    (h : Bytes.splitFront n inflow.bytes = none) :
    ∃ t after, inflow.gather none time n = .failed .closed t after := by
  obtain ⟨e, he⟩ := Option.isSome_iff_exists.mp hends
  have hfew := Bytes.splitFront_eq_none_iff.mp h
  rw [Inflow.gather, he]
  exact gather_of_few hfew

/-! ## Waiting for a frame -/

section Receive

variable {limit time t : Nat} {inflow after : Inflow} {front : Bytes}

/-- The length does not arrive. -/
theorem receive_of_failed {cause : LinkError}
    (h : inflow.gather none time 4 = .failed cause t after) :
    receive ⟨limit, none⟩ time inflow = .failed cause t after := by
  simp only [receive, Option.map_none, h]

/-- The length is over the limit. -/
theorem receive_of_limit_lt (h : inflow.gather none time 4 = .got front t after)
    (hlimit : limit < Bytes.ofBigEndian front) :
    receive ⟨limit, none⟩ time inflow
      = .failed (overLimit (Bytes.ofBigEndian front) limit) t after := by
  simp only [receive, Option.map_none, h]
  exact if_pos hlimit

/-- The length is within the limit, and the body is awaited. -/
theorem receive_of_le_limit (h : inflow.gather none time 4 = .got front t after)
    (hlimit : ¬ limit < Bytes.ofBigEndian front) :
    receive ⟨limit, none⟩ time inflow = after.gather none t (Bytes.ofBigEndian front) := by
  simp only [receive, Option.map_none, h]
  exact if_neg hlimit

end Receive

/-- How an attempt to receive ends if `scan` finds this at the front of all the bytes to come. -/
inductive Follows (limit : Nat) (ending : Option Nat) : Scan → Gathered → Prop
  | frame {body rest : Bytes} {t : Nat} {after : Inflow} (hbytes : after.bytes = rest)
    (hending : after.ending = ending) : Follows limit ending (.frame body rest) (.got body t after)
  | tooLarge {length t : Nat} {rest : Bytes} {after : Inflow} :
    Follows limit ending (.tooLarge length rest) (.failed (overLimit length limit) t after)
  | short {t : Nat} {after : Inflow} : Follows limit ending .short (.failed .closed t after)

/-- **Receiving follows the bytes**, whatever the pieces. -/
theorem receive_follows (limit time : Nat) {inflow : Inflow} (hends : inflow.Ends) :
    Follows limit inflow.ending (scan limit inflow.bytes) (receive ⟨limit, none⟩ time inflow) := by
  unfold scan
  split
  · next hfront =>
    obtain ⟨t, after, hgather⟩ := Inflow.gather_of_splitFront_eq_none hends hfront
    rw [receive_of_failed hgather]
    exact .short
  · next front behind hfront =>
    obtain ⟨t, after, hgather, hbytes, hending⟩ := Inflow.gather_of_splitFront hfront
    simp only
    split
    · next hlimit =>
      rw [receive_of_limit_lt hgather hlimit]
      exact .tooLarge
    · next hlimit =>
      rw [receive_of_le_limit hgather hlimit, ← hbytes]
      have hends' : after.Ends := by rw [Inflow.Ends, hending]; exact hends
      split
      · next hbody =>
        obtain ⟨t', after', hgather'⟩ := Inflow.gather_of_splitFront_eq_none hends' hbody
        rw [hgather']
        exact .short
      · next body rest hbody =>
        obtain ⟨t', after', hgather', hbytes', hending'⟩ := Inflow.gather_of_splitFront hbody
        rw [hgather']
        exact .frame hbytes' (hending'.trans hending)

/-! ## Receiving again and again -/

/-- What a receiver without a timeout sees of bytes after which the stream ends, up to its first
failure. -/
def yields (limit : Nat) (bytes : Bytes) : List Received :=
  match _h : scan limit bytes with
  | .frame body rest => .frame body :: yields limit rest
  | .tooLarge length _ => [.failed (overLimit length limit)]
  | .short => [.failed .closed]
termination_by bytes.length
decreasing_by exact length_lt_of_scan (by assumption)

theorem yields_eq (limit : Nat) (bytes : Bytes) :
    yields limit bytes =
      match scan limit bytes with
      | .frame body rest => .frame body :: yields limit rest
      | .tooLarge length _ => [.failed (overLimit length limit)]
      | .short => [.failed .closed] := by
  rw [yields]
  split <;> simp only [*]

/-- The fuel is enough, since every frame takes bytes. -/
theorem receiveFrom_eq_yields {limit patience got time fuel : Nat} {inflow : Inflow}
    (hends : inflow.Ends) (hfuel : inflow.bytes.length < fuel) :
    receiveFrom ⟨limit, none⟩ patience got time inflow fuel = yields limit inflow.bytes := by
  induction fuel generalizing got time inflow with
  | zero => exact absurd hfuel (Nat.not_lt_zero _)
  | succ fuel ih =>
    have hfollows := receive_follows limit time hends
    rw [receiveFrom]
    generalize hscan : scan limit inflow.bytes = front at hfollows
    generalize receive ⟨limit, none⟩ time inflow = ended at hfollows ⊢
    cases hfollows with
    | frame hbytes hending =>
      have hshorter := length_lt_of_scan hscan
      rw [yields_eq, hscan, ← hbytes]
      refine congrArg _ (ih ?_ ?_)
      · rw [Inflow.Ends, hending]
        exact hends
      · rw [hbytes]
        omega
    | tooLarge => rw [yields_eq, hscan]; rfl
    | short => rw [yields_eq, hscan]

/-- **What a receiver sees depends only on the bytes.** -/
theorem receiveAll_eq_yields (limit patience : Nat) {inflow : Inflow} (hends : inflow.Ends) :
    receiveAll ⟨limit, none⟩ patience inflow = yields limit inflow.bytes := by
  refine receiveFrom_eq_yields hends ?_
  show inflow.bytes.length < inflow.bytes.length + patience + 1
  omega

end RemoteCall.Frame
