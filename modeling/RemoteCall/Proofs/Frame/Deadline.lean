import RemoteCall.Proofs.Frame.Receiving

/-!
# Receiving with a deadline

With a timeout a receiver has a deadline, which is fixed when it begins to wait.  Only what arrives
before counts, and of that only the bytes: `receive` does to them what `scan` does
(`receive_expires`).  Where `scan` misses something the receiver fails, because the stream has ended
in time or else because the time is over.  So a receiver gives up exactly if what arrives in time is
no frame and the stream goes on (`receive_eq_timeout_iff`); that it hears from the peer meanwhile does
not help.
-/

namespace RemoteCall.Frame

/-- What arrives before the deadline. -/
def Inflow.inTime (inflow : Inflow) (deadline : Nat) : Bytes :=
  (inflow.pieces.takeWhile fun piece => piece.1 < deadline).flatMap fun piece => piece.2

/-- Whether everything has arrived and the stream has ended before the deadline. -/
def Inflow.isOver (inflow : Inflow) (deadline : Nat) : Bool :=
  inflow.pieces.all (fun piece => piece.1 < deadline) && inflow.ending.any (· < deadline)

variable {limit deadline n time t : Nat} {ending : Option Nat} {got bytes : Bytes}
  {pieces : List (Nat × Bytes)}

theorem inTime_of_early (h : t < deadline) :
    Inflow.inTime ⟨(t, bytes) :: pieces, ending⟩ deadline =
      bytes ++ Inflow.inTime ⟨pieces, ending⟩ deadline := by
  rw [Inflow.inTime, List.takeWhile_cons_of_pos (by simpa using h), List.flatMap_cons]
  rfl

theorem inTime_of_late (h : deadline ≤ t) :
    Inflow.inTime ⟨(t, bytes) :: pieces, ending⟩ deadline = [] := by
  rw [Inflow.inTime, List.takeWhile_cons_of_neg (by simpa using h), List.flatMap_nil]

theorem isOver_of_early (h : t < deadline) :
    Inflow.isOver ⟨(t, bytes) :: pieces, ending⟩ deadline =
      Inflow.isOver ⟨pieces, ending⟩ deadline := by
  rw [Inflow.isOver, List.all_cons, decide_eq_true h, Bool.true_and]
  rfl

theorem isOver_of_late (h : deadline ≤ t) :
    Inflow.isOver ⟨(t, bytes) :: pieces, ending⟩ deadline = false := by
  have hnot : ¬ t < deadline := by omega
  rw [Inflow.isOver, List.all_cons, decide_eq_false hnot, Bool.false_and, Bool.false_and]

/-! ## Waiting for bytes -/

/-- If enough bytes come in time, the first of them are taken and the others are left. -/
theorem gather_of_inTime (htime : time < deadline)
    (h : n ≤ (got ++ Inflow.inTime ⟨pieces, ending⟩ deadline).length) :
    ∃ t rest, gather (some deadline) ending n got time pieces
        = .got ((got ++ Inflow.inTime ⟨pieces, ending⟩ deadline).take n) t rest ∧
      t < deadline ∧ rest.inTime deadline =
        (got ++ Inflow.inTime ⟨pieces, ending⟩ deadline).drop n ∧
      rest.isOver deadline = Inflow.isOver ⟨pieces, ending⟩ deadline := by
  induction pieces generalizing got time with
  | nil =>
    have hgot : got ++ Inflow.inTime ⟨[], ending⟩ deadline = got := List.append_nil got
    rw [hgot] at h ⊢
    have hlong : ¬ got.length < n := by omega
    rw [gather, Bytes.isShorter_eq, decide_eq_false hlong]
    refine ⟨time, _, rfl, htime, ?_, isOver_of_early htime⟩
    rw [inTime_of_early htime]
    exact List.append_nil _
  | cons piece pieces ih =>
    obtain ⟨t, bytes⟩ := piece
    by_cases hshort : got.length < n
    · rcases Nat.lt_or_ge t deadline with hearly | hlate
      · -- the next piece comes in time
        rw [inTime_of_early hearly, ← List.append_assoc] at h ⊢
        rw [isOver_of_early hearly, gather, Bytes.isShorter_eq, decide_eq_true hshort]
        have hnot : isLate (some deadline) t = false := decide_eq_false (by omega)
        rw [hnot]
        exact ih (by omega) h
      · rw [inTime_of_late hlate, List.append_nil] at h
        omega
    · rw [gather, Bytes.isShorter_eq, decide_eq_false hshort]
      have hn : n ≤ got.length := by omega
      refine ⟨time, ⟨(time, got.drop n) :: (t, bytes) :: pieces, ending⟩, ?_, htime, ?_,
        isOver_of_early htime⟩
      · rw [List.take_append_of_le_length hn]
        rfl
      · rw [inTime_of_early htime, List.drop_append_of_le_length hn]

/-- If too few bytes come in time, waiting fails. -/
theorem gather_of_tooFew (h : (got ++ Inflow.inTime ⟨pieces, ending⟩ deadline).length < n) :
    ∃ t rest, gather (some deadline) ending n got time pieces =
      .failed (if Inflow.isOver ⟨pieces, ending⟩ deadline then .closed else .timeout .receive)
        t rest := by
  have hshort : got.length < n := by
    rw [List.length_append] at h
    omega
  induction pieces generalizing got time with
  | nil =>
    rw [gather, Bytes.isShorter_eq, decide_eq_true hshort]
    cases ending with
    | none => exact ⟨max time deadline, ⟨[], none⟩, rfl⟩
    | some e =>
      rcases Nat.lt_or_ge e deadline with hearly | hlate
      · have hnot : isLate (some deadline) e = false := decide_eq_false (by omega)
        refine ⟨max time e, ⟨[], some e⟩, ?_⟩
        simp [awaitEnding, hnot, Inflow.isOver, hearly]
      · have hlate' : isLate (some deadline) e = true := decide_eq_true hlate
        refine ⟨deadline, ⟨[], some e⟩, ?_⟩
        have hover : ¬ e < deadline := by omega
        simp [awaitEnding, hlate', Inflow.isOver, hover]
  | cons piece pieces ih =>
    obtain ⟨t, bytes⟩ := piece
    rw [gather, Bytes.isShorter_eq, decide_eq_true hshort]
    rcases Nat.lt_or_ge t deadline with hearly | hlate
    · have hnot : isLate (some deadline) t = false := decide_eq_false (by omega)
      rw [inTime_of_early hearly, ← List.append_assoc] at h
      rw [isOver_of_early hearly, hnot]
      refine ih h ?_
      rw [List.length_append] at h
      omega
    · have hlate' : isLate (some deadline) t = true := decide_eq_true hlate
      rw [isOver_of_late hlate, hlate']
      exact ⟨deadline, ⟨(t, bytes) :: pieces, ending⟩, rfl⟩

variable {inflow after : Inflow} {front rest : Bytes}

theorem Inflow.gather_of_inTime_eq (htime : time < deadline)
    (h : Bytes.splitFront n (inflow.inTime deadline) = some (front, rest)) :
    ∃ t after, inflow.gather (some deadline) time n = .got front t after ∧ t < deadline ∧
      after.inTime deadline = rest ∧ after.isOver deadline = inflow.isOver deadline := by
  obtain ⟨hbytes, hlength⟩ := Bytes.splitFront_eq_some_iff.mp h
  have henough : n ≤ ([] ++ inflow.inTime deadline).length := by
    rw [List.nil_append, hbytes, List.length_append]
    omega
  obtain ⟨t, after, hgather, ht, hafter, hover⟩ :=
    @gather_of_inTime deadline n time inflow.ending [] inflow.pieces htime henough
  have hall : [] ++ Inflow.inTime ⟨inflow.pieces, inflow.ending⟩ deadline = front ++ rest := hbytes
  rw [hall, List.take_left' hlength] at hgather
  rw [hall, List.drop_left' hlength] at hafter
  exact ⟨t, after, hgather, ht, hafter, hover⟩

theorem Inflow.gather_of_inTime_eq_none (time : Nat)
    (h : Bytes.splitFront n (inflow.inTime deadline) = none) :
    ∃ t after, inflow.gather (some deadline) time n =
      .failed (if inflow.isOver deadline then .closed else .timeout .receive) t after :=
  @gather_of_tooFew deadline n time inflow.ending [] inflow.pieces
    (Bytes.splitFront_eq_none_iff.mp h)

/-! ## Waiting for a frame -/

theorem scan_eq_short_iff (limit : Nat) (bytes : Bytes) : scan limit bytes = .short ↔
    bytes.length < 4 ∨ declared bytes ≤ limit ∧ bytes.length < 4 + declared bytes := by
  have hscans := scans limit bytes
  generalize scan limit bytes = found at hscans
  cases hscans with
  | frame hbytes hdeclared hbody =>
    have hlength := congrArg List.length hbytes
    rw [List.length_append, length_encode] at hlength
    simp only [reduceCtorEq, false_iff, not_or, not_and]
    exact ⟨by omega, fun _ => by omega⟩
  | tooLarge hfour hlimit =>
    simp only [reduceCtorEq, false_iff, not_or, not_and]
    exact ⟨by omega, fun hle => by omega⟩
  | short hshort => exact ⟨fun _ => hshort, fun _ => rfl⟩

/-- What is found stays when more arrives. -/
theorem scan_append_ne_short {limit : Nat} {bytes : Bytes} (h : scan limit bytes ≠ .short)
    (more : Bytes) : scan limit (bytes ++ more) ≠ .short := by
  intro hshort
  apply h
  rw [scan_eq_short_iff, List.length_append] at hshort
  rw [scan_eq_short_iff]
  rcases Nat.lt_or_ge bytes.length 4 with hfour | hfour
  · exact Or.inl hfour
  · have hdeclared : declared (bytes ++ more) = declared bytes := by
      rw [declared, declared, List.take_append_of_le_length hfour]
    rw [hdeclared] at hshort
    omega

/-- How an attempt to receive ends if `scan` finds this at the front of what arrives in time. -/
inductive Expires (limit deadline : Nat) (ended : Bool) : Scan → Gathered → Prop
  | frame {body rest : Bytes} {t : Nat} {after : Inflow} (hbytes : after.inTime deadline = rest)
    (hover : after.isOver deadline = ended) :
    Expires limit deadline ended (.frame body rest) (.got body t after)
  | tooLarge {length t : Nat} {rest : Bytes} {after : Inflow} :
    Expires limit deadline ended (.tooLarge length rest) (.failed (overLimit length limit) t after)
  | short {t : Nat} {after : Inflow} : Expires limit deadline ended .short
      (.failed (if ended then .closed else .timeout .receive) t after)

/-- **Receiving follows the bytes that come in time**, whatever the pieces. -/
theorem receive_expires (limit time : Nat) {timeout : Nat} (htimeout : 0 < timeout)
    (inflow : Inflow) :
    Expires limit (time + timeout) (inflow.isOver (time + timeout))
      (scan limit (inflow.inTime (time + timeout)))
      (receive ⟨limit, some timeout⟩ time inflow) := by
  have htime : time < time + timeout := by omega
  simp only [receive, Option.map_some]
  unfold scan
  split
  · next hfront =>
    obtain ⟨t, after, hgather⟩ := Inflow.gather_of_inTime_eq_none time hfront
    rw [hgather]
    exact .short
  · next front behind hfront =>
    obtain ⟨t, after, hgather, ht, hbytes, hover⟩ := Inflow.gather_of_inTime_eq htime hfront
    simp only [hgather]
    split
    · exact .tooLarge
    · rw [← hbytes, ← hover]
      split
      · next hbody =>
        obtain ⟨t', after', hgather'⟩ := Inflow.gather_of_inTime_eq_none t hbody
        rw [hgather']
        exact .short
      · next body rest hbody =>
        obtain ⟨t', after', hgather', _, hbytes', hover'⟩ := Inflow.gather_of_inTime_eq ht hbody
        rw [hgather']
        exact .frame hbytes' hover'

/-- **When a receiver gives up.** -/
theorem receive_eq_timeout_iff {limit time timeout : Nat} (htimeout : 0 < timeout)
    {inflow : Inflow} :
    (∃ t after, receive ⟨limit, some timeout⟩ time inflow = .failed (.timeout .receive) t after) ↔
      scan limit (inflow.inTime (time + timeout)) = .short ∧
        inflow.isOver (time + timeout) = false := by
  have hexpires := receive_expires limit time htimeout inflow
  generalize scan limit (inflow.inTime (time + timeout)) = found at hexpires
  generalize receive ⟨limit, some timeout⟩ time inflow = outcome at hexpires
  cases hexpires with
  | frame _ _ => simp
  | tooLarge => simp [overLimit]
  | short => cases inflow.isOver (time + timeout) <;> simp

end RemoteCall.Frame
