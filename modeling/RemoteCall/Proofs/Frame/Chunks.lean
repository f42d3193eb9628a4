import RemoteCall.Proofs.Frame.Boundaries

/-!
# However a stream is cut into pieces

What a receiver makes of a stream is said here without any receiving: `Parses` cuts the bytes into
the frames of some bodies and a rest at whose front no frame stands that the receiver would take.
Every stream comes apart in this way (`exists_parses`) and in no other (`Parses.unique`), because
`scan` takes off exactly the first frame or finds one of three reasons not to (`scans`).

A receiver without a timeout gets the bodies of this parse and then stops at the rest
(`yields_of_parses`).  Into which pieces the bytes were cut, and when they arrive, does not come into
it (`receiveAll_eq_yields`), so it gets the same of all of them (`receivesAlike`).
-/

namespace RemoteCall.Frame

/-- The bytes are the frames of these bodies, and then a rest: it is too short for a length, or tells
one over the limit, or is too short for the body. -/
structure Parses (limit : Nat) (bytes : Bytes) (bodies : List Bytes) (rest : Bytes) : Prop where
  split : bytes = stream bodies ++ rest
  within : ∀ body ∈ bodies, body.length ≤ limit
  stops : rest.length < 4 ∨ limit < declared rest ∨ rest.length < 4 + declared rest

/-- What stops a receiver at the rest. -/
def stop (limit : Nat) (rest : Bytes) : LinkError :=
  if 4 ≤ rest.length ∧ limit < declared rest then .frame (.tooLarge (declared rest) limit)
  else .closed

/-! ## Streams as a whole -/

variable {limit : Nat} {bytes rest : Bytes} {bodies : List Bytes}

/-- Every stream comes apart. -/
theorem exists_parses (limit : Nat) (bytes : Bytes) :
    ∃ bodies rest, Parses limit bytes bodies rest := by
  induction bytes using yields.induct limit with
  | case1 bytes body behind hscan ih =>
    obtain ⟨bodies, rest, hparses⟩ := ih
    have hfront := scans limit bytes
    rw [hscan] at hfront
    cases hfront with
    | frame hbytes _ hbody =>
      refine ⟨body :: bodies, rest, ?_, ?_, hparses.stops⟩
      · rw [hbytes, hparses.split, stream_cons, List.append_assoc]
      · intro b hb
        rcases List.mem_cons.mp hb with rfl | hb
        · exact hbody
        · exact hparses.within b hb
  | case2 bytes length behind hscan =>
    have hfront := scans limit bytes
    rw [hscan] at hfront
    cases hfront with
    | tooLarge _ hlimit =>
      exact ⟨[], bytes, rfl, List.forall_mem_nil _, Or.inr (Or.inl hlimit)⟩
  | case3 bytes hscan =>
    have hfront := scans limit bytes
    rw [hscan] at hfront
    cases hfront with
    | short hshort =>
      exact ⟨[], bytes, rfl, List.forall_mem_nil _, hshort.imp_right fun h => Or.inr h.2⟩

/-- At the rest a receiver stops. -/
theorem yields_of_stops
    (h : rest.length < 4 ∨ limit < declared rest ∨ rest.length < 4 + declared rest) :
    yields limit rest = [.failed (stop limit rest)] := by
  have hfront := scans limit rest
  rw [yields_eq]
  generalize scan limit rest = front at hfront
  cases hfront with
  | @frame body behind hrest hdeclared hbody =>
    -- a frame within the limit is no rest
    have hlength : rest.length = 4 + body.length + behind.length := by
      rw [hrest, List.length_append, length_encode]
    omega
  | tooLarge hfour hover => rw [stop, if_pos ⟨hfour, hover⟩]; rfl
  | short hshort => rw [stop, if_neg (by omega)]

/-- **A receiver gets the bodies, and stops at the rest.** -/
theorem yields_of_parses (hlimit : limit ≤ longest) (h : Parses limit bytes bodies rest) :
    yields limit bytes = bodies.map .frame ++ [.failed (stop limit rest)] := by
  obtain ⟨rfl, hwithin, hstops⟩ := h
  induction bodies with
  | nil => exact yields_of_stops hstops
  | cons body bodies ih =>
    have hbody := hwithin body List.mem_cons_self
    rw [stream_cons, List.append_assoc, yields_eq, scan_encode_append hbody hlimit]
    exact congrArg (.frame body :: ·) (ih fun b hb => hwithin b (List.mem_cons_of_mem body hb))

/-- No stream comes apart in two ways. -/
theorem Parses.unique {bodies' : List Bytes} {rest' : Bytes} (hlimit : limit ≤ longest)
    (h : Parses limit bytes bodies rest) (h' : Parses limit bytes bodies' rest') :
    bodies = bodies' ∧ rest = rest' := by
  have hsame := (yields_of_parses hlimit h).symm.trans (yields_of_parses hlimit h')
  have hmap := (List.append_inj' hsame rfl).1
  have hbodies : bodies = bodies' :=
    (List.map_inj_right fun a b hab => Received.frame.inj hab).mp hmap
  subst hbodies
  exact ⟨rfl, List.append_cancel_left (h.split.symm.trans h'.split)⟩

/-- A limit that no length can be over need not be told from a smaller one. -/
theorem stop_clampLimit (limit : Nat) (rest : Bytes) :
    stop (clampLimit limit) rest = stop limit rest := by
  have hdeclared := declared_le_longest rest
  by_cases hle : limit ≤ longest
  · rw [clampLimit, Nat.min_eq_left hle]
  · have hclamp : clampLimit limit = longest := Nat.min_eq_right (by omega)
    rw [stop, stop, hclamp, if_neg (by omega), if_neg (by omega)]

/-- **Receiving does not depend on the pieces.**  Every stream comes apart in one way into frames
within the limit and a rest, and a receiver without a timeout, whatever limit it was told, gets the
bodies and then one failure: that the length at the front of the rest is over the limit, if four
bytes are there to tell it, and that the stream has ended otherwise. -/
theorem receivesAlike (limit : Nat) (bytes : Bytes) :
    ∃ bodies rest, Parses (clampLimit limit) bytes bodies rest ∧
      (∀ bodies' rest', Parses (clampLimit limit) bytes bodies' rest' →
        bodies' = bodies ∧ rest' = rest) ∧
      ∀ patience inflow, inflow.Ends → inflow.bytes = bytes →
        receiveAll ⟨clampLimit limit, none⟩ patience inflow
          = bodies.map .frame ++ [.failed (stop limit rest)] := by
  obtain ⟨bodies, rest, hparses⟩ := exists_parses (clampLimit limit) bytes
  refine ⟨bodies, rest, hparses, ?_, ?_⟩
  · intro bodies' rest' hparses'
    exact hparses'.unique (clampLimit_le limit) hparses
  · intro patience inflow hends hbytes
    rw [receiveAll_eq_yields _ patience hends, hbytes,
      yields_of_parses (clampLimit_le limit) hparses, stop_clampLimit]

/-- The frames of two bodies, and the length of a third that is over a limit of four. -/
def overlongStream : Bytes := [0, 0, 0, 2, 7, 8, 0, 0, 0, 0, 0, 0, 0, 9, 1]

/-- In one piece and byte by byte it is received alike. -/
theorem receivesAlike_bytewise :
    ∀ pieces ∈ [[(0, overlongStream)], overlongStream.mapIdx fun time byte => (time, [byte])],
      receiveAll ⟨clampLimit 4, none⟩ 1 ⟨pieces, some 20⟩
        = [.frame [7, 8], .frame [], .failed (.frame (.tooLarge 9 4))] := by
  have hparses : Parses (clampLimit 4) overlongStream [[7, 8], []] [0, 0, 0, 9, 1] :=
    ⟨by decide, by decide, by decide⟩
  obtain ⟨bodies, rest, _, hunique, hreceive⟩ := receivesAlike 4 overlongStream
  obtain ⟨rfl, rfl⟩ := hunique _ _ hparses
  intro pieces hpieces
  have hbytes : (Inflow.mk pieces (some 20)).bytes = overlongStream := by
    rcases List.mem_cons.mp hpieces with rfl | hpieces
    · decide
    · rw [List.mem_singleton.mp hpieces]
      decide
  exact hreceive 1 ⟨pieces, some 20⟩ rfl hbytes

end RemoteCall.Frame
